import DevyFps.Foundations.Floating
import DevyFps.Shared.Voxel.Chunk
import Mathlib.Data.List.FinRange

/-! The mesh of a chunk: four vertices and two triangles for each face of a block that nothing
hides. -/

namespace DevyFps.Voxel

open Foundations FloatFormat

structure Color where
  r : UInt8
  g : UInt8
  b : UInt8
  a : UInt8
  deriving DecidableEq, Repr

def blockColor (id : BlockId) : Color :=
  if id = 1 then ⟨0x7A, 0x5C, 0x3A, 0xFF⟩
  else if id = 2 then ⟨0x88, 0x88, 0x88, 0xFF⟩
  else if id = 3 then ⟨0x2E, 0x8B, 0x57, 0xFF⟩
  else ⟨0x00, 0x00, 0x00, 0x00⟩

/-- A difference of two positions. -/
structure Offset where
  x : Int
  y : Int
  z : Int
  deriving DecidableEq, Repr

/-- The corners of a face of the block at the origin, in the order in which they are emitted. The
components of the normals are whole numbers. -/
structure Face where
  corners : Vector Offset 4
  normal : Offset

/-- The faces in the directions +X, -X, +Y, -Y, +Z and -Z. -/
def kFaces : Vector Face 6 :=
  #v[⟨#v[⟨1, 0, 0⟩, ⟨1, 1, 0⟩, ⟨1, 1, 1⟩, ⟨1, 0, 1⟩], ⟨1, 0, 0⟩⟩,
    ⟨#v[⟨0, 0, 1⟩, ⟨0, 1, 1⟩, ⟨0, 1, 0⟩, ⟨0, 0, 0⟩], ⟨-1, 0, 0⟩⟩,
    ⟨#v[⟨0, 1, 1⟩, ⟨1, 1, 1⟩, ⟨1, 1, 0⟩, ⟨0, 1, 0⟩], ⟨0, 1, 0⟩⟩,
    ⟨#v[⟨0, 0, 0⟩, ⟨1, 0, 0⟩, ⟨1, 0, 1⟩, ⟨0, 0, 1⟩], ⟨0, -1, 0⟩⟩,
    ⟨#v[⟨0, 0, 1⟩, ⟨1, 0, 1⟩, ⟨1, 1, 1⟩, ⟨0, 1, 1⟩], ⟨0, 0, 1⟩⟩,
    ⟨#v[⟨1, 0, 0⟩, ⟨0, 0, 0⟩, ⟨0, 1, 0⟩, ⟨1, 1, 0⟩], ⟨0, 0, -1⟩⟩]

def kNeighborOffsets : Vector Offset 6 :=
  #v[⟨1, 0, 0⟩, ⟨-1, 0, 0⟩, ⟨0, 1, 0⟩, ⟨0, -1, 0⟩, ⟨0, 0, 1⟩, ⟨0, 0, -1⟩]

variable {F : Type} [SingleFloat F]

structure Vertex (F : Type) [SingleFloat F] where
  x : F
  y : F
  z : F
  r : UInt8
  g : UInt8
  b : UInt8
  a : UInt8
  nx : F
  ny : F
  nz : F

structure MeshData (F : Type) [SingleFloat F] where
  vertices : List (Vertex F) := []
  indices : List UInt32 := []

/-- The vertex of a block at one corner of a face. -/
def cornerVertex (x y z : Int) (color : Color) (normal corner : Offset) : Vertex F where
  x := ofInt (x + corner.x)
  y := ofInt (y + corner.y)
  z := ofInt (z + corner.z)
  r := color.r
  g := color.g
  b := color.b
  a := color.a
  nx := ofInt normal.x
  ny := ofInt normal.y
  nz := ofInt normal.z

/-- The body of the innermost loop, for a face that is not hidden. -/
def emitFace (x y z : Int) (color : Color) (mesh : MeshData F) (face : Fin 6) : MeshData F :=
  let baseIndex := UInt32.ofNat mesh.vertices.length
  { vertices := mesh.vertices ++
      (kFaces.get face).corners.toList.map (cornerVertex x y z color (kFaces.get face).normal)
    indices := mesh.indices ++
      [baseIndex + 0, baseIndex + 1, baseIndex + 2, baseIndex + 2, baseIndex + 3, baseIndex + 0] }

namespace Chunk

/-- The faces of one block. -/
def meshBlock (chunk : Chunk) (mesh : MeshData F) (x y z : Int) : MeshData F :=
  let id := chunk.get x y z
  if id = 0 then mesh
  else
    (List.finRange 6).foldl (fun mesh face =>
      let offset := kNeighborOffsets.get face
      let neighbor := chunk.get (x + offset.x) (y + offset.y) (z + offset.z)
      if neighbor ≠ 0 then mesh else emitFace x y z (blockColor id) mesh face) mesh

def buildMesh (chunk : Chunk) : MeshData F :=
  (intRange 0 (kChunkSize - 1)).foldl (fun mesh z =>
    (intRange 0 (kChunkSize - 1)).foldl (fun mesh y =>
      (intRange 0 (kChunkSize - 1)).foldl (fun mesh x => chunk.meshBlock mesh x y z) mesh) mesh) {}

end Chunk

end DevyFps.Voxel
