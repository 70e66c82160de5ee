import DevyFps.Foundations.Quads
import DevyFps.Shared.Voxel.ChunkMesh
import Mathlib.Data.Real.Basic
import Mathlib.Tactic.FinCases

/-! The faces that a mesh shows. Each exposed face of a block is drawn once, as two triangles
that cover it and turn towards the outside. -/

namespace DevyFps.Voxel

open Foundations FloatFormat

variable {F : Type} [SingleFloat F]

/-- A face of a block, named by the direction in which it looks. -/
structure BlockFace where
  x : Int
  y : Int
  z : Int
  side : Offset
  deriving DecidableEq

/-- One of the six directions along the axes. -/
def Offset.IsDirection (side : Offset) : Prop :=
  side.x.natAbs + side.y.natAbs + side.z.natAbs = 1

/-- A face of a block of the chunk, with air or the outside of the chunk before it. -/
def Exposed (chunk : Chunk) (face : BlockFace) : Prop :=
  Chunk.isInside face.x face.y face.z = true ∧ chunk.get face.x face.y face.z ≠ 0 ∧
    face.side.IsDirection ∧
    (Chunk.isInside (face.x + face.side.x) (face.y + face.side.y) (face.z + face.side.z) = false ∨
      chunk.get (face.x + face.side.x) (face.y + face.side.y) (face.z + face.side.z) = 0)

/-- One coordinate of a point on a face: within the block, and at the end towards which the face
looks. -/
def OnFaceAxis {K : Type*} [Ring K] [LinearOrder K] (low : K) (side : Int) (point : K) : Prop :=
  (low ≤ point ∧ point ≤ low + 1) ∧ (side = 1 → point = low + 1) ∧ (side = -1 → point = low)

/-- The points of a face. Its corners are those with whole coordinates. -/
def OnFace {K : Type*} [Ring K] [LinearOrder K] (face : BlockFace) (point : K × K × K) : Prop :=
  OnFaceAxis (face.x : K) face.side.x point.1 ∧ OnFaceAxis (face.y : K) face.side.y point.2.1 ∧
    OnFaceAxis (face.z : K) face.side.z point.2.2

def cross (a b : Int × Int × Int) : Int × Int × Int :=
  (a.2.1 * b.2.2 - a.2.2 * b.2.1, a.2.2 * b.1 - a.1 * b.2.2, a.1 * b.2.1 - a.2.1 * b.1)

def Offset.toProd (offset : Offset) : Int × Int × Int := (offset.x, offset.y, offset.z)

/-- A whole point in real space. -/
def realPoint (point : Int × Int × Int) : ℝ × ℝ × ℝ := (point.1, point.2.1, point.2.2)

/-- Four corners in the order in which a quad is drawn are those of the face: they are its corners
without repetition, its two triangles make up the face, and both turn around the direction in
which the face looks. -/
structure DrawsFace (face : BlockFace) (corner : Fin 4 → Int × Int × Int) : Prop where
  corners : ∀ point, OnFace face point ↔ ∃ k, corner k = point
  distinct : Function.Injective corner
  covers : {point : ℝ × ℝ × ℝ | OnFace face point} =
    triangle ℝ (realPoint (corner 0)) (realPoint (corner 1)) (realPoint (corner 2)) ∪
      triangle ℝ (realPoint (corner 2)) (realPoint (corner 3)) (realPoint (corner 0))
  winding : cross (corner 1 - corner 0) (corner 2 - corner 0) = face.side.toProd ∧
    cross (corner 3 - corner 2) (corner 0 - corner 2) = face.side.toProd

/-! The tables. -/

/-- The six neighbours are the six directions. -/
theorem isDirection_iff (side : Offset) :
    side.IsDirection ↔ ∃ face : Fin 6, kNeighborOffsets.get face = side := by
  unfold Offset.IsDirection
  constructor
  · obtain ⟨x, y, z⟩ := side
    intro h
    dsimp only at h
    have hX : x = -1 ∨ x = 0 ∨ x = 1 := by omega
    have hY : y = -1 ∨ y = 0 ∨ y = 1 := by omega
    have hZ : z = -1 ∨ z = 0 ∨ z = 1 := by omega
    rcases hX with rfl | rfl | rfl <;> rcases hY with rfl | rfl | rfl <;>
      rcases hZ with rfl | rfl | rfl <;> revert h <;> decide
  · rintro ⟨face, rfl⟩
    revert face
    decide

/-- No direction is in the table twice. -/
theorem kNeighborOffsets_injective {face face' : Fin 6}
    (h : kNeighborOffsets.get face = kNeighborOffsets.get face') : face = face' := by
  revert face face'
  decide

/-- A face looks towards the neighbour that is tested for it. -/
theorem normal_eq_neighborOffset (face : Fin 6) :
    (kFaces.get face).normal = kNeighborOffsets.get face := by
  revert face
  decide

/-- The corners of a face of a block. -/
def faceCorner (x y z : Int) (face : Fin 6) (k : Fin 4) : Int × Int × Int :=
  let corner := (kFaces.get face).corners.get k
  (x + corner.x, y + corner.y, z + corner.z)

/-- A whole point of a face is a corner of the block. -/
theorem faceCorner_corners (x y z : Int) (face : Fin 6) (point : Int × Int × Int) :
    OnFace ⟨x, y, z, kNeighborOffsets.get face⟩ point ↔ ∃ k, faceCorner x y z face k = point := by
  obtain ⟨px, py, pz⟩ := point
  unfold OnFace OnFaceAxis faceCorner
  simp only [Int.cast_id, Prod.mk.injEq, Fin.exists_fin_succ, Fin.exists_fin_zero, or_false]
  fin_cases face <;> simp [Vector.get, kNeighborOffsets, kFaces] <;> omega

/-- The four corners of a face are distinct. -/
theorem faceCorner_injective (x y z : Int) (face : Fin 6) :
    Function.Injective (faceCorner x y z face) := by
  intro k k' h
  unfold faceCorner at h
  simp only [Prod.mk.injEq, add_right_inj] at h
  revert face k k'
  decide

/-- Both triangles of a face wind the same way: their normals are its direction. -/
theorem faceCorner_winding (x y z : Int) (face : Fin 6) :
    let corner := faceCorner x y z face
    cross (corner 1 - corner 0) (corner 2 - corner 0) = (kNeighborOffsets.get face).toProd ∧
      cross (corner 3 - corner 2) (corner 0 - corner 2) = (kNeighborOffsets.get face).toProd := by
  intro corner
  unfold corner faceCorner cross
  simp only [Prod.fst_sub, Prod.snd_sub, add_sub_add_left_eq_sub]
  revert face
  decide

/-- The edge of a face from its first corner to another one. -/
def faceEdge (face : Fin 6) (k : Fin 4) : ℝ × ℝ × ℝ :=
  realPoint (faceCorner 0 0 0 face k - faceCorner 0 0 0 face 0)

/-- The component of a vector along an edge. -/
def along (edge vector : ℝ × ℝ × ℝ) : ℝ :=
  edge.1 * vector.1 + edge.2.1 * vector.2.1 + edge.2.2 * vector.2.2

/-- The corners of a face, from the first one along its two edges. -/
theorem realPoint_faceCorner (x y z : Int) (face : Fin 6) :
    let first := realPoint (faceCorner x y z face 0)
    realPoint (faceCorner x y z face 1) = first + faceEdge face 1 ∧
      realPoint (faceCorner x y z face 2) = first + faceEdge face 1 + faceEdge face 3 ∧
      realPoint (faceCorner x y z face 3) = first + faceEdge face 3 := by
  unfold faceEdge realPoint faceCorner
  fin_cases face <;> simp [Vector.get, kFaces]

/-- A face is spanned by its edges, since they are unit vectors along two axes. -/
theorem onFace_eq_parallelogram (x y z : Int) (face : Fin 6) :
    {point : ℝ × ℝ × ℝ | OnFace ⟨x, y, z, kNeighborOffsets.get face⟩ point} =
      parallelogram ℝ (realPoint (faceCorner x y z face 0)) (faceEdge face 1)
        (faceEdge face 3) := by
  ext ⟨px, py, pz⟩
  constructor
  · intro h
    refine ⟨along (faceEdge face 1) ((px, py, pz) - realPoint (faceCorner x y z face 0)),
      along (faceEdge face 3) ((px, py, pz) - realPoint (faceCorner x y z face 0)), ?_, ?_, ?_⟩
    all_goals
      simp only [Set.mem_ofPred_eq, OnFace, OnFaceAxis] at h
      unfold along faceEdge realPoint faceCorner
      fin_cases face <;> simp [Vector.get, kNeighborOffsets, kFaces] at h ⊢ <;> grind
  · rintro ⟨s, t, hs, ht, hPoint⟩
    simp only [Set.mem_ofPred_eq, OnFace, OnFaceAxis]
    unfold faceEdge realPoint faceCorner at hPoint
    fin_cases face <;> simp [Vector.get, kNeighborOffsets, kFaces] at hPoint ⊢ <;> grind

/-- The corners of a face in the table are those of the face of the block. -/
theorem drawsFace (x y z : Int) (face : Fin 6) :
    DrawsFace ⟨x, y, z, kNeighborOffsets.get face⟩ (faceCorner x y z face) where
  corners := faceCorner_corners x y z face
  distinct := faceCorner_injective x y z face
  covers := by
    obtain ⟨hSecond, hThird, hFourth⟩ := realPoint_faceCorner x y z face
    rw [onFace_eq_parallelogram, hSecond, hThird, hFourth, triangles_eq_parallelogram]
  winding := faceCorner_winding x y z face

/-! The loops. -/

/-- A face that the loops come to: a block and the place of the face in the tables. -/
structure LoopFace where
  x : Int
  y : Int
  z : Int
  face : Fin 6

namespace LoopFace

def toFace (loopFace : LoopFace) : BlockFace where
  x := loopFace.x
  y := loopFace.y
  z := loopFace.z
  side := kNeighborOffsets.get loopFace.face

/-- Each face of a block is met once in the loops. -/
theorem toFace_injective : Function.Injective toFace := by
  rintro ⟨x, y, z, face⟩ ⟨x', y', z', face'⟩ h
  have hX : x = x' := congrArg BlockFace.x h
  have hY : y = y' := congrArg BlockFace.y h
  have hZ : z = z' := congrArg BlockFace.z h
  have hFace : face = face' := kNeighborOffsets_injective (congrArg BlockFace.side h)
  rw [hX, hY, hZ, hFace]

end LoopFace

/-- The faces of a block that are not hidden, in the order of the loop. -/
def facesAt (chunk : Chunk) (x y z : Int) : List LoopFace :=
  if chunk.get x y z = 0 then []
  else
    ((List.finRange 6).filter fun face =>
      chunk.get (x + (kNeighborOffsets.get face).x) (y + (kNeighborOffsets.get face).y)
        (z + (kNeighborOffsets.get face).z) = 0).map fun face => ⟨x, y, z, face⟩

/-- The faces of the chunk that are not hidden, in the order of the loops. -/
def facesOf (chunk : Chunk) : List LoopFace :=
  (intRange 0 (kChunkSize - 1)).flatMap fun z =>
    (intRange 0 (kChunkSize - 1)).flatMap fun y =>
      (intRange 0 (kChunkSize - 1)).flatMap fun x => facesAt chunk x y z

/-- The body of the innermost loop for one of these faces. -/
def emitLoopFace (chunk : Chunk) (mesh : MeshData F) (loopFace : LoopFace) : MeshData F :=
  emitFace loopFace.x loopFace.y loopFace.z
    (blockColor (chunk.get loopFace.x loopFace.y loopFace.z)) mesh loopFace.face

/-- The loop over the faces of a block emits those that are open. -/
theorem meshBlock_eq_foldl (chunk : Chunk) (mesh : MeshData F) (x y z : Int) :
    chunk.meshBlock mesh x y z = (facesAt chunk x y z).foldl (emitLoopFace chunk) mesh := by
  unfold Chunk.meshBlock facesAt
  dsimp only
  split
  · rfl
  · rw [List.foldl_map, List.foldl_filter]
    congr 1
    funext mesh face
    simp [emitLoopFace]

/-- The loops over a chunk emit the open faces of all of its blocks. -/
theorem buildMesh_eq_foldl (chunk : Chunk) :
    (chunk.buildMesh : MeshData F) = (facesOf chunk).foldl (emitLoopFace chunk) {} := by
  unfold Chunk.buildMesh facesOf
  rw [List.foldl_flatMap]
  apply List.foldl_ext
  intro mesh z _
  rw [List.foldl_flatMap]
  apply List.foldl_ext
  intro mesh y _
  rw [List.foldl_flatMap]
  apply List.foldl_ext
  intro mesh x _
  exact meshBlock_eq_foldl chunk mesh x y z

/-- A face of a solid block is open if there is nothing on its other side. -/
theorem mem_facesAt {chunk : Chunk} {x y z : Int} {loopFace : LoopFace} :
    loopFace ∈ facesAt chunk x y z ↔
      (loopFace.x = x ∧ loopFace.y = y ∧ loopFace.z = z) ∧ chunk.get x y z ≠ 0 ∧
        chunk.get (x + (kNeighborOffsets.get loopFace.face).x)
          (y + (kNeighborOffsets.get loopFace.face).y)
          (z + (kNeighborOffsets.get loopFace.face).z) = 0 := by
  unfold facesAt
  obtain ⟨x', y', z', face⟩ := loopFace
  by_cases hAir : chunk.get x y z = 0
  · simp [hAir]
  · rw [if_neg hAir, List.mem_map]
    constructor
    · rintro ⟨other, hMem, hSame⟩
      obtain ⟨rfl, rfl, rfl, rfl⟩ := (LoopFace.mk.injEq _ _ _ _ _ _ _ _).mp hSame
      exact ⟨⟨rfl, rfl, rfl⟩, hAir, of_decide_eq_true (List.mem_filter.mp hMem).2⟩
    · rintro ⟨⟨rfl, rfl, rfl⟩, -, hOpen⟩
      exact ⟨face, List.mem_filter.mpr ⟨List.mem_finRange face, decide_eq_true hOpen⟩, rfl⟩

/-- Outside of a chunk there is nothing. -/
theorem Chunk.get_outside (chunk : Chunk) {x y z : Int} (h : Chunk.isInside x y z = false) :
    chunk.get x y z = 0 := by
  unfold Chunk.get
  rw [h]
  rfl

/-- The loops come exactly to the exposed faces. -/
theorem mem_facesOf {chunk : Chunk} {loopFace : LoopFace} :
    loopFace ∈ facesOf chunk ↔ Exposed chunk loopFace.toFace := by
  unfold facesOf Exposed
  simp only [List.mem_flatMap, mem_intRange, mem_facesAt, Chunk.isInside_iff, kChunkSize,
    LoopFace.toFace]
  constructor
  · rintro ⟨z, hZ, y, hY, x, hX, ⟨rfl, rfl, rfl⟩, hBlock, hOpen⟩
    exact ⟨⟨by omega, by omega, by omega⟩, hBlock, (isDirection_iff _).mpr ⟨loopFace.face, rfl⟩,
      Or.inr hOpen⟩
  · rintro ⟨⟨hX, hY, hZ⟩, hBlock, -, hOpen⟩
    refine ⟨loopFace.z, by omega, loopFace.y, by omega, loopFace.x, by omega, ⟨rfl, rfl, rfl⟩,
      hBlock, ?_⟩
    rcases hOpen with hOutside | hAir
    · exact chunk.get_outside hOutside
    · exact hAir

theorem nodup_facesAt (chunk : Chunk) (x y z : Int) : (facesAt chunk x y z).Nodup := by
  unfold facesAt
  split
  · exact List.nodup_nil
  · apply List.Nodup.map _ ((List.nodup_finRange 6).filter _)
    intro face face' h
    exact congrArg LoopFace.face h

/-- No face is emitted twice. -/
theorem nodup_facesOf (chunk : Chunk) : (facesOf chunk).Nodup := by
  unfold facesOf
  refine List.nodup_flatMap.mpr ⟨fun z _ => List.nodup_flatMap.mpr ⟨fun y _ =>
    List.nodup_flatMap.mpr ⟨fun x _ => nodup_facesAt chunk x y z, ?_⟩, ?_⟩, ?_⟩
  · apply (nodup_intRange _ _).imp
    intro x x' hX loopFace h h'
    exact hX ((mem_facesAt.mp h).1.1.symm.trans (mem_facesAt.mp h').1.1)
  · apply (nodup_intRange _ _).imp
    intro y y' hY loopFace h h'
    obtain ⟨x, -, h⟩ := List.mem_flatMap.mp h
    obtain ⟨x', -, h'⟩ := List.mem_flatMap.mp h'
    exact hY ((mem_facesAt.mp h).1.2.1.symm.trans (mem_facesAt.mp h').1.2.1)
  · apply (nodup_intRange _ _).imp
    intro z z' hZ loopFace h h'
    obtain ⟨y, -, h⟩ := List.mem_flatMap.mp h
    obtain ⟨y', -, h'⟩ := List.mem_flatMap.mp h'
    obtain ⟨x, -, h⟩ := List.mem_flatMap.mp h
    obtain ⟨x', -, h'⟩ := List.mem_flatMap.mp h'
    exact hZ ((mem_facesAt.mp h).1.2.2.symm.trans (mem_facesAt.mp h').1.2.2)

/-- A block has six faces. -/
theorem length_facesAt_le (chunk : Chunk) (x y z : Int) : (facesAt chunk x y z).length ≤ 6 := by
  unfold facesAt
  split
  · exact Nat.zero_le _
  · rw [List.length_map]
    exact (List.length_filter_le _ _).trans_eq List.length_finRange

/-- All indices fit 32 bits. -/
theorem length_facesOf_le (chunk : Chunk) : (facesOf chunk).length ≤ 6 * 32 * 32 * 32 := by
  have hRange : (intRange 0 (kChunkSize - 1)).length = 32 := by decide
  have hRow : ∀ z y, ((intRange 0 (kChunkSize - 1)).flatMap fun x =>
      facesAt chunk x y z).length ≤ 6 * 32 := fun z y =>
    (length_flatMap_pieces_le (fun x => length_facesAt_le chunk x y z) _).trans_eq
      (congrArg (6 * ·) hRange)
  have hLayer : ∀ z, ((intRange 0 (kChunkSize - 1)).flatMap fun y =>
      (intRange 0 (kChunkSize - 1)).flatMap fun x => facesAt chunk x y z).length ≤
        6 * 32 * 32 := fun z =>
    (length_flatMap_pieces_le (hRow z) _).trans_eq (congrArg (6 * 32 * ·) hRange)
  exact (length_flatMap_pieces_le hLayer _).trans_eq (congrArg (6 * 32 * 32 * ·) hRange)

/-! The lists that are emitted. -/

/-- The four vertices of a face. -/
def quadVertices (chunk : Chunk) (loopFace : LoopFace) : List (Vertex F) :=
  (kFaces.get loopFace.face).corners.toList.map
    (cornerVertex loopFace.x loopFace.y loopFace.z
      (blockColor (chunk.get loopFace.x loopFace.y loopFace.z)) (kFaces.get loopFace.face).normal)

/-- The six indices of the `i`-th face. -/
def quadIndices (i : Nat) : List UInt32 :=
  let baseIndex := UInt32.ofNat (4 * i)
  [baseIndex + 0, baseIndex + 1, baseIndex + 2, baseIndex + 2, baseIndex + 3, baseIndex + 0]

theorem length_quadVertices (chunk : Chunk) (loopFace : LoopFace) :
    (quadVertices chunk loopFace : List (Vertex F)).length = 4 := by
  unfold quadVertices
  rw [List.length_map, Vector.length_toList]

/-- Over a list of faces the vertices come in fours and the indices in sixes, each with the offset
of its face; by induction on the list. -/
theorem foldl_emitLoopFace (chunk : Chunk) (faces : List LoopFace) (mesh : MeshData F) (drawn : Nat)
    (hDrawn : mesh.vertices.length = 4 * drawn) :
    (faces.foldl (emitLoopFace chunk) mesh).vertices =
        mesh.vertices ++ faces.flatMap (quadVertices chunk) ∧
      (faces.foldl (emitLoopFace chunk) mesh).indices =
        mesh.indices ++ (List.range' drawn faces.length).flatMap quadIndices := by
  induction faces generalizing mesh drawn with
  | nil => simp
  | cons loopFace rest ih =>
      have hNext : (emitLoopFace chunk mesh loopFace).vertices =
          mesh.vertices ++ quadVertices chunk loopFace := rfl
      have hIndices : (emitLoopFace chunk mesh loopFace).indices =
          mesh.indices ++ quadIndices drawn := by
        unfold quadIndices
        rw [← hDrawn]
        rfl
      obtain ⟨hVertices, hRest⟩ := ih (emitLoopFace chunk mesh loopFace) (drawn + 1) (by
        rw [hNext, List.length_append, length_quadVertices, hDrawn]
        omega)
      rw [List.foldl_cons, hVertices, hRest, hNext, hIndices, List.flatMap_cons, List.length_cons,
        List.range'_succ, List.flatMap_cons, List.append_assoc, List.append_assoc]
      exact ⟨rfl, rfl⟩

theorem vertices_buildMesh (chunk : Chunk) :
    (chunk.buildMesh : MeshData F).vertices = (facesOf chunk).flatMap (quadVertices chunk) := by
  obtain ⟨hVertices, -⟩ := foldl_emitLoopFace chunk (facesOf chunk) ({} : MeshData F) 0 rfl
  rw [buildMesh_eq_foldl, hVertices]
  exact List.nil_append _

theorem indices_buildMesh (chunk : Chunk) :
    (chunk.buildMesh : MeshData F).indices =
      (List.range (facesOf chunk).length).flatMap quadIndices := by
  obtain ⟨-, hIndices⟩ := foldl_emitLoopFace chunk (facesOf chunk) ({} : MeshData F) 0 rfl
  rw [buildMesh_eq_foldl, hIndices, List.range_eq_range']
  exact List.nil_append _

/-- The order in which the two triangles of a quad use its corners. -/
def triangleOrder : Vector (Fin 4) 6 := #v[0, 1, 2, 2, 3, 0]

/-- The indices of a quad do not wrap around. -/
theorem getElem?_quadIndices {i : Nat} (h : 4 * i + 4 ≤ 2 ^ 32) (k : Fin 6) :
    (quadIndices i)[k.val]?.map UInt32.toNat = some (4 * i + triangleOrder[k].val) := by
  unfold quadIndices
  fin_cases k <;> simp [triangleOrder] <;> omega

/-- The vertex of a block at a whole point. -/
def pointVertex (point : Int × Int × Int) (color : Color) (normal : Offset) : Vertex F where
  x := ofInt point.1
  y := ofInt point.2.1
  z := ofInt point.2.2
  r := color.r
  g := color.g
  b := color.b
  a := color.a
  nx := ofInt normal.x
  ny := ofInt normal.y
  nz := ofInt normal.z

/-- A vertex of a face is a corner of it, in the colour of its block. -/
theorem getElem?_quadVertices (chunk : Chunk) (loopFace : LoopFace) (k : Fin 4) :
    (quadVertices chunk loopFace : List (Vertex F))[k.val]? =
      some (pointVertex (faceCorner loopFace.x loopFace.y loopFace.z loopFace.face k)
        (blockColor (chunk.get loopFace.x loopFace.y loopFace.z)) loopFace.toFace.side) := by
  have hCorner : (kFaces.get loopFace.face).corners.toList[k.val]? =
      some ((kFaces.get loopFace.face).corners.get k) := by
    rw [Vector.getElem?_toList, Vector.getElem?_eq_getElem k.isLt]
    rfl
  unfold quadVertices
  rw [List.getElem?_map, normal_eq_neighborOffset, hCorner]
  rfl

/-- A mesh draws each of these faces once: its quads are in the order of the list, four vertices
and six indices each. -/
structure MeshDraws (chunk : Chunk) (mesh : MeshData F) (faces : List BlockFace) : Prop where
  nodup : faces.Nodup
  exposed : ∀ face, face ∈ faces ↔ Exposed chunk face
  vertexCount : mesh.vertices.length = 4 * faces.length
  indexCount : mesh.indices.length = 6 * faces.length
  quad : ∀ (i : Nat) (face : BlockFace), faces[i]? = some face →
    ∃ corner, DrawsFace face corner ∧
      (∀ k : Fin 4, mesh.vertices[4 * i + k.val]? =
        some (pointVertex (corner k) (blockColor (chunk.get face.x face.y face.z)) face.side)) ∧
      ∀ k : Fin 6, mesh.indices[6 * i + k.val]?.map UInt32.toNat =
        some (4 * i + triangleOrder[k].val)
  index_lt : ∀ index ∈ mesh.indices, index.toNat < mesh.vertices.length

theorem length_quadIndices (i : Nat) : (quadIndices i).length = 6 := rfl

/-- A mesh has four vertices for each face that it draws. -/
theorem length_vertices_buildMesh (chunk : Chunk) :
    (chunk.buildMesh : MeshData F).vertices.length = 4 * (facesOf chunk).length := by
  rw [vertices_buildMesh]
  exact length_flatMap_pieces (length_quadVertices chunk) _

/-- Each index is that of a vertex of the mesh, since there are few enough faces for 32 bits. -/
theorem index_lt_buildMesh (chunk : Chunk) {index : UInt32}
    (h : index ∈ (chunk.buildMesh : MeshData F).indices) :
    index.toNat < (chunk.buildMesh : MeshData F).vertices.length := by
  have hFew := length_facesOf_le chunk
  rw [indices_buildMesh] at h
  rw [length_vertices_buildMesh]
  obtain ⟨i, hRange, hMem⟩ := List.mem_flatMap.mp h
  rw [List.mem_range] at hRange
  obtain ⟨k, hAt⟩ := List.mem_iff_getElem?.mp hMem
  have hInside : k < 6 := (List.getElem?_eq_some_iff.mp hAt).1
  have hValue := getElem?_quadIndices (i := i) (by omega) ⟨k, hInside⟩
  rw [hAt, Option.map_some] at hValue
  injection hValue with hValue
  have hCorner := triangleOrder[(⟨k, hInside⟩ : Fin 6)].isLt
  omega

/-- The mesh of every chunk draws exactly the exposed faces of its blocks. -/
theorem mesh_exact (chunk : Chunk) :
    MeshDraws chunk (chunk.buildMesh : MeshData F) ((facesOf chunk).map LoopFace.toFace) where
  nodup := (nodup_facesOf chunk).map LoopFace.toFace_injective
  exposed := by
    intro face
    constructor
    · intro hMem
      obtain ⟨loopFace, hLoop, rfl⟩ := List.mem_map.mp hMem
      exact mem_facesOf.mp hLoop
    · intro hExposed
      obtain ⟨tableFace, hSide⟩ := (isDirection_iff face.side).mp hExposed.2.2.1
      have hSame : LoopFace.toFace ⟨face.x, face.y, face.z, tableFace⟩ = face := by
        unfold LoopFace.toFace
        rw [hSide]
      exact List.mem_map.mpr ⟨_, mem_facesOf.mpr (hSame ▸ hExposed), hSame⟩
  vertexCount := by rw [List.length_map, length_vertices_buildMesh]
  indexCount := by
    rw [List.length_map, indices_buildMesh, length_flatMap_pieces length_quadIndices,
      List.length_range]
  quad := by
    intro i face hAt
    rw [List.getElem?_map] at hAt
    obtain ⟨loopFace, hLoop, rfl⟩ := Option.map_eq_some_iff.mp hAt
    obtain ⟨hRange, -⟩ := List.getElem?_eq_some_iff.mp hLoop
    have hFew := length_facesOf_le chunk
    refine ⟨_, drawsFace loopFace.x loopFace.y loopFace.z loopFace.face, fun k => ?_, fun k => ?_⟩
    · rw [vertices_buildMesh, getElem?_flatMap_pieces (length_quadVertices chunk) hLoop k.isLt]
      exact getElem?_quadVertices chunk loopFace k
    · rw [indices_buildMesh, getElem?_flatMap_pieces length_quadIndices
        (List.getElem?_range hRange) k.isLt]
      exact getElem?_quadIndices (by omega) k
  index_lt := fun _ => index_lt_buildMesh chunk

end DevyFps.Voxel
