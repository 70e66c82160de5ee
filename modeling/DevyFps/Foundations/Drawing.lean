import Mathlib.Data.List.Basic
import Mathlib.Data.Set.Basic

/-! Drawing on a canvas: a list of writes is carried out in order and the last
write to a position is what remains there. Layers stacked on each other show, at
every position, the uppermost layer that draws it. -/

universe u v w

namespace Foundations

variable {P : Type u} {V : Type v} [DecidableEq P]

/-- The value that a list of writes leaves at a position, if it writes there. -/
def lastWrite (position : P) : List (P × V) → Option V
  | [] => none
  | write :: rest =>
      (lastWrite position rest).or (if write.1 = position then some write.2 else none)

@[simp] theorem lastWrite_nil (position : P) : lastWrite position ([] : List (P × V)) = none := rfl

theorem lastWrite_cons (position : P) (write : P × V) (rest : List (P × V)) :
    lastWrite position (write :: rest) =
      (lastWrite position rest).or (if write.1 = position then some write.2 else none) := rfl

theorem lastWrite_append (position : P) (first second : List (P × V)) :
    lastWrite position (first ++ second) =
      (lastWrite position second).or (lastWrite position first) := by
  induction first with
  | nil => simp
  | cons write rest ih =>
      rw [List.cons_append, lastWrite_cons, lastWrite_cons, ih, Option.or_assoc]

/-- A position is written exactly when some write names it. -/
theorem lastWrite_isSome_iff {position : P} {writes : List (P × V)} :
    (lastWrite position writes).isSome = true ↔ ∃ value, (position, value) ∈ writes := by
  induction writes with
  | nil => simp
  | cons write rest ih =>
      rw [lastWrite_cons, Option.isSome_or, Bool.or_eq_true, ih]
      constructor
      · rintro (⟨value, hMem⟩ | hHere)
        · exact ⟨value, List.mem_cons_of_mem _ hMem⟩
        · split at hHere
          · rename_i hPos
            exact ⟨write.2, by rw [← hPos]; exact List.mem_cons_self⟩
          · cases hHere
      · rintro ⟨value, hMem⟩
        cases hMem with
        | head => exact Or.inr (by simp)
        | tail _ hRest => exact Or.inl ⟨value, hRest⟩

theorem lastWrite_mem {position : P} {value : V} {writes : List (P × V)}
    (h : lastWrite position writes = some value) : (position, value) ∈ writes := by
  induction writes with
  | nil => cases h
  | cons write rest ih =>
      rw [lastWrite_cons] at h
      cases hRest : lastWrite position rest with
      | some later =>
          rw [hRest] at h
          exact List.mem_cons_of_mem _ (ih (by rw [hRest]; simpa using h))
      | none =>
          rw [hRest, Option.none_or] at h
          split at h
          · rename_i hPos
            injection h with hValue
            rw [← hPos, ← hValue]
            exact List.mem_cons_self
          · cases h

/-- When every position is written with one value only, that value remains. -/
theorem lastWrite_eq_some_of_forall {position : P} {value : V} {writes : List (P × V)}
    (hMem : ∃ v, (position, v) ∈ writes) (hValue : ∀ v, (position, v) ∈ writes → v = value) :
    lastWrite position writes = some value := by
  obtain ⟨left, hLeft⟩ := Option.isSome_iff_exists.mp (lastWrite_isSome_iff.mpr hMem)
  rw [hLeft, hValue left (lastWrite_mem hLeft)]

/-- Leaving out the writes to unwanted positions leaves out what they would show. -/
theorem lastWrite_filter (keep : P → Bool) (position : P) (writes : List (P × V)) :
    lastWrite position (writes.filter fun write => keep write.1) =
      if keep position = true then lastWrite position writes else none := by
  induction writes with
  | nil => simp
  | cons write rest ih =>
      rw [List.filter_cons]
      cases hKeep : keep write.1 with
      | true =>
          rw [if_pos rfl, lastWrite_cons, lastWrite_cons, ih]
          by_cases hHere : write.1 = position
          · rw [hHere] at hKeep
            simp [hKeep]
          · simp [hHere]
      | false =>
          rw [if_neg Bool.false_ne_true, ih, lastWrite_cons]
          by_cases hHere : write.1 = position
          · rw [hHere] at hKeep
            simp [hKeep]
          · simp [hHere]

/-- Carrying out writes one by one on any store that refuses some positions, observed
at one place: the last write to that place wins, unless the place is refused. -/
theorem observe_foldl {S : Type w} (position : P) (keep : P → Bool) (observe : S → V)
    (write : S → P × V → S)
    (hWrite : ∀ s entry, observe (write s entry) =
      if entry.1 = position ∧ keep position = true then entry.2 else observe s)
    (s : S) (writes : List (P × V)) :
    observe (writes.foldl write s) =
      (lastWrite position (writes.filter fun entry => keep entry.1)).getD (observe s) := by
  rw [lastWrite_filter]
  induction writes generalizing s with
  | nil => simp
  | cons entry rest ih =>
      rw [List.foldl_cons, ih, hWrite, lastWrite_cons]
      cases keep position with
      | false => simp
      | true =>
          cases lastWrite position rest with
          | some later => simp
          | none =>
              simp only [and_true, if_true, Option.getD_none, Option.none_or]
              split <;> rfl

section Layers

variable {L : Type w} (blocks : L → List (P × V)) (above : L → L → Prop)

/-- Among the given layers, `layer` draws `value` at the position and no layer above
it draws there. -/
structure Uppermost (layers : Set L) (position : P) (layer : L) (value : V) : Prop where
  mem : layer ∈ layers
  draws : lastWrite position (blocks layer) = some value
  free : ∀ other ∈ layers, above other layer → lastWrite position (blocks other) = none

/-- What a stack of layers over a background shows at a position. -/
inductive Shows (layers : Set L) (background : V) (position : P) : V → Prop where
  | layer (layer : L) (value : V) (h : Uppermost blocks above layers position layer value) :
      Shows layers background position value
  | background (h : ∀ layer ∈ layers, lastWrite position (blocks layer) = none) :
      Shows layers background position background

variable {blocks above} {layers : Set L} {background : V} {position : P}

/-- Two layers are never level. -/
def Stacked (above : L → L → Prop) (layers : Set L) : Prop :=
  ∀ a ∈ layers, ∀ b ∈ layers, a = b ∨ above a b ∨ above b a

theorem Uppermost.value_unique (hStacked : Stacked above layers) {a b : L} {x y : V}
    (ha : Uppermost blocks above layers position a x)
    (hb : Uppermost blocks above layers position b y) : x = y := by
  rcases hStacked a ha.mem b hb.mem with hSame | hAbove | hAbove
  · subst hSame
    exact Option.some.inj (ha.draws.symm.trans hb.draws)
  · have hNone := hb.free a ha.mem hAbove
    rw [ha.draws] at hNone
    cases hNone
  · have hNone := ha.free b hb.mem hAbove
    rw [hb.draws] at hNone
    cases hNone

/-- A stack shows one value at each position. -/
theorem Shows.unique (hStacked : Stacked above layers) {x y : V}
    (hx : Shows blocks above layers background position x)
    (hy : Shows blocks above layers background position y) : x = y := by
  cases hx with
  | layer a _ ha =>
      cases hy with
      | layer b _ hb => exact ha.value_unique hStacked hb
      | background hNone =>
          have hDraws := hNone a ha.mem
          rw [ha.draws] at hDraws
          cases hDraws
  | background hNone =>
      cases hy with
      | layer b _ hb =>
          have hDraws := hNone b hb.mem
          rw [hb.draws] at hDraws
          cases hDraws
      | background _ => rfl

/-- Only the layers that draw a position matter there. -/
theorem shows_congr {layers' : Set L} {value : V}
    (h : ∀ layer, lastWrite position (blocks layer) ≠ none → (layer ∈ layers ↔ layer ∈ layers')) :
    Shows blocks above layers background position value ↔
      Shows blocks above layers' background position value := by
  have hOne : ∀ first second : Set L,
      (∀ layer, lastWrite position (blocks layer) ≠ none → (layer ∈ first ↔ layer ∈ second)) →
      Shows blocks above first background position value →
      Shows blocks above second background position value := by
    intro first second hSame hShows
    cases hShows with
    | layer layer _ hUpper =>
        have hDraws : lastWrite position (blocks layer) ≠ none := by simp [hUpper.draws]
        refine .layer layer _ ⟨(hSame layer hDraws).mp hUpper.mem, hUpper.draws, ?_⟩
        intro other hOther hAbove
        by_contra hDrawn
        exact hDrawn (hUpper.free other ((hSame other hDrawn).mpr hOther) hAbove)
    | background hNone =>
        refine .background fun layer hLayer => ?_
        by_contra hDrawn
        exact hDrawn (hNone layer ((hSame layer hDrawn).mpr hLayer))
  exact ⟨hOne _ _ h, hOne _ _ fun layer hDraws => (h layer hDraws).symm⟩

/-- Drawing finitely many layers in ascending order shows the stack of these layers. -/
theorem shows_lastWrite_flatMap {order : List L} (hIrrefl : ∀ layer, ¬ above layer layer)
    (hSorted : order.Pairwise fun a b => ¬ above a b) (position : P) (background : V) :
    Shows blocks above { layer | layer ∈ order } background position
      ((lastWrite position (order.flatMap blocks)).getD background) := by
  induction order with
  | nil => exact .background fun _ hMem => nomatch hMem
  | cons first rest ih =>
      have hRest := ih (List.Pairwise.of_cons hSorted)
      rw [List.flatMap_cons, lastWrite_append]
      cases hLater : lastWrite position (rest.flatMap blocks) with
      | some value =>
          rw [hLater, Option.getD_some] at hRest
          simp only [Option.some_or, Option.getD_some]
          cases hRest with
          | layer layer _ hUpper =>
              refine .layer layer value ⟨List.mem_cons_of_mem _ hUpper.mem, hUpper.draws, ?_⟩
              intro other hOther hAbove
              rcases List.mem_cons.mp hOther with hFirst | hTail
              · rw [hFirst] at hAbove
                exact absurd hAbove (List.rel_of_pairwise_cons hSorted hUpper.mem)
              · exact hUpper.free other hTail hAbove
          | background hNone =>
              obtain ⟨layer, hLayer, hWrite⟩ := List.mem_flatMap.mp (lastWrite_mem hLater)
              have hSome := lastWrite_isSome_iff.mpr ⟨_, hWrite⟩
              rw [hNone layer hLayer] at hSome
              cases hSome
      | none =>
          have hFree : ∀ layer ∈ rest, lastWrite position (blocks layer) = none := by
            intro layer hLayer
            cases hDraws : lastWrite position (blocks layer) with
            | none => rfl
            | some value =>
                have hSome := lastWrite_isSome_iff.mpr
                  ⟨value, List.mem_flatMap.mpr ⟨layer, hLayer, lastWrite_mem hDraws⟩⟩
                rw [hLater] at hSome
                cases hSome
          rw [Option.none_or]
          cases hFirst : lastWrite position (blocks first) with
          | some value =>
              refine .layer first value ⟨List.mem_cons_self, hFirst, ?_⟩
              intro other hOther hAbove
              rcases List.mem_cons.mp hOther with hSame | hTail
              · rw [hSame] at hAbove
                exact absurd hAbove (hIrrefl first)
              · exact hFree other hTail
          | none =>
              refine .background fun layer hLayer => ?_
              rcases List.mem_cons.mp hLayer with hSame | hTail
              · rw [hSame]; exact hFirst
              · exact hFree layer hTail

/-- If the layers that draw a position are among finitely many, one of them is
uppermost. -/
theorem exists_uppermost {near : List L} (hIrrefl : ∀ layer, ¬ above layer layer)
    (hSorted : near.Pairwise fun a b => ¬ above a b) (hNear : ∀ layer ∈ near, layer ∈ layers)
    (hCover : ∀ layer ∈ layers, lastWrite position (blocks layer) ≠ none → layer ∈ near)
    {layer : L} {value : V} (hMem : layer ∈ layers)
    (hDraws : lastWrite position (blocks layer) = some value) :
    ∃ top shown, Uppermost blocks above layers position top shown := by
  have hShows : Shows blocks above _ value position _ :=
    shows_lastWrite_flatMap hIrrefl hSorted position value
  generalize (lastWrite position (near.flatMap blocks)).getD value = shown at hShows
  cases hShows with
  | layer top _ hUpper =>
      refine ⟨top, _, hNear top hUpper.mem, hUpper.draws, ?_⟩
      intro other hOther hAbove
      by_contra hDrawn
      exact hDrawn (hUpper.free other (hCover other hOther hDrawn) hAbove)
  | background hNone =>
      have hDrawn : lastWrite position (blocks layer) ≠ none := by simp [hDraws]
      exact absurd (hNone layer (hCover layer hMem hDrawn)) hDrawn

/-- When some layers are left out of a stack, a position shows what the whole stack
shows exactly if every left-out layer is drawn over there, or draws what the remaining
layers show anyway. -/
theorem shows_all_iff {kept : Set L} (hStacked : Stacked above layers) (hKept : kept ⊆ layers)
    (hTop : ∀ layer value, layer ∈ layers → lastWrite position (blocks layer) = some value →
      ∃ top shown, Uppermost blocks above layers position top shown)
    {shown : V} (hShown : Shows blocks above kept background position shown) :
    Shows blocks above layers background position shown ↔
      ∀ layer ∈ layers, layer ∉ kept → ∀ value, lastWrite position (blocks layer) = some value →
        (∃ other ∈ layers, above other layer ∧ lastWrite position (blocks other) ≠ none) ∨
          Shows blocks above kept background position value := by
  have hKeptStacked : Stacked above kept := fun a ha b hb => hStacked a (hKept ha) b (hKept hb)
  constructor
  · intro hAll layer hLayer _ value hDraws
    by_cases hOver : ∃ other ∈ layers, above other layer ∧ lastWrite position (blocks other) ≠ none
    · exact Or.inl hOver
    · refine Or.inr ?_
      have hUpper : Uppermost blocks above layers position layer value := by
        refine ⟨hLayer, hDraws, fun other hOther hAbove => ?_⟩
        by_contra hDrawn
        exact hOver ⟨other, hOther, hAbove, hDrawn⟩
      rw [(Shows.layer layer value hUpper).unique hStacked hAll]
      exact hShown
  · intro hHidden
    by_cases hDrawn : ∃ layer ∈ layers, ∃ value, lastWrite position (blocks layer) = some value
    · obtain ⟨layer, hLayer, value, hDraws⟩ := hDrawn
      obtain ⟨top, topValue, hUpper⟩ := hTop layer value hLayer hDraws
      have hSame : topValue = shown := by
        by_cases hTopKept : top ∈ kept
        · have hUpperKept : Uppermost blocks above kept position top topValue :=
            ⟨hTopKept, hUpper.draws, fun other hOther => hUpper.free other (hKept hOther)⟩
          exact (Shows.layer top topValue hUpperKept).unique hKeptStacked hShown
        · rcases hHidden top hUpper.mem hTopKept topValue hUpper.draws with hOver | hShows
          · obtain ⟨other, hOther, hAbove, hOtherDraws⟩ := hOver
            exact absurd (hUpper.free other hOther hAbove) hOtherDraws
          · exact hShows.unique hKeptStacked hShown
      rw [← hSame]
      exact .layer top topValue hUpper
    · have hNone : ∀ layer ∈ layers, lastWrite position (blocks layer) = none := by
        intro layer hLayer
        cases hDraws : lastWrite position (blocks layer) with
        | none => rfl
        | some value => exact absurd ⟨layer, hLayer, value, hDraws⟩ hDrawn
      have hBackground : shown = background :=
        hShown.unique hKeptStacked (.background fun layer hLayer => hNone layer (hKept hLayer))
      rw [hBackground]
      exact .background hNone

end Layers

end Foundations
