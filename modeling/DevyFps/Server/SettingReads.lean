import DevyFps.Server.ServerSettings

/-! The rules for the reads of the settings: when a read of a validated field succeeds and
yields what is written. -/

namespace DevyFps.Server

open Foundations FloatFormat Recording
open Net (Document)

/-- Every integer is read as it is written, and no value is replaced. -/
def SettingEvent.Honest : SettingEvent → Prop
  | .integer written value => value = written
  | .fallback _ => False

/-- The integer at the end of a path, where there is one, is below 2^31. -/
def FitsAt {D : Type} : Json D → List String → Prop
  | value, [] => ∀ n, value.integer = some n → n < 2 ^ 31
  | value, field :: path => ∀ inner, value.member field = some inner → FitsAt inner path

instance FitsAt.decide {D : Type} : (root : Json D) → (path : List String) →
    Decidable (FitsAt root path)
  | root, [] =>
      decidable_of_iff (root.integer.all (· < 2 ^ 31) = true) (by
        rw [Option.all_eq_true]
        simp only [FitsAt, decide_eq_true_eq])
  | root, field :: path =>
      have := fun inner : Json D => FitsAt.decide inner path
      decidable_of_iff ((root.member field).all (fun inner => FitsAt inner path) = true) (by
        rw [Option.all_eq_true]
        simp only [FitsAt, decide_eq_true_eq])

def FitsAll {D : Type} (root : Json D) (paths : List (List String)) : Prop :=
  ∀ path ∈ paths, FitsAt root path

instance {D : Type} (root : Json D) (paths : List (List String)) : Decidable (FitsAll root paths) :=
  inferInstanceAs (Decidable (∀ path ∈ paths, FitsAt root path))

section Paths

variable {D : Type} {root : Json D} {path : List String} {paths more : List (List String)}

theorem fitsAll_nil_iff : FitsAll root [] ↔ True :=
  iff_true_intro fun _ hPath => absurd hPath List.not_mem_nil

theorem fitsAll_cons_iff : FitsAll root (path :: paths) ↔ FitsAt root path ∧ FitsAll root paths :=
  List.forall_mem_cons

theorem fitsAll_append_iff :
    FitsAll root (paths ++ more) ↔ FitsAll root paths ∧ FitsAll root more :=
  List.forall_mem_append

/-- The paths into a member. -/
theorem fitsAll_under_iff {key : String} :
    FitsAll root (paths.map (key :: ·)) ↔
      ∀ inner, root.member key = some inner → FitsAll inner paths := by
  constructor
  · intro hAll inner hMember path hPath
    exact hAll _ (List.mem_map_of_mem hPath) inner hMember
  · intro hAll path hPath
    obtain ⟨rest, hRest, rfl⟩ := List.mem_map.mp hPath
    exact fun inner hMember => hAll inner hMember rest hRest

end Paths

/-- An integer field that is checked against 32 bits fits them. -/
theorem IntegerField.fitsAt {D : Type} {root : Json D} {key : String} {low high : Int}
    (h : IntegerField root key low high) (hHigh : high ≤ 2 ^ 31) : FitsAt root [key] := by
  intro value hMember n hInteger
  obtain ⟨m, hSame, -, hBelow⟩ := h value hMember
  rw [hInteger] at hSame
  injection hSame with hSame
  omega

variable {F : Type} [SingleFloat F]

namespace Reading

variable {root : Document F} {key : String}

/-- A number that is not negative survives the narrowing exactly if it is below the limit. -/
theorem bmod_eq_self_iff {n : Int} (h : 0 ≤ n) : n.bmod (2 ^ 32) = n ↔ n < 2 ^ 31 := by
  rw [Int.bmod_def]
  split
  · omega
  · omega

/-- The integer that is read is the one that is written exactly if it fits. -/
theorem clean_readInt_iff {low high fallback : Int} {post : Int → Prop}
    (h : IntegerField root key low high) (hObject : root.isObject = true) (hLow : 0 ≤ low) :
    Clean SettingEvent.Honest (readInt root key fallback) post ↔
      FitsAt root [key] ∧ post ((integerAt root key).getD fallback) := by
  unfold readInt recordInteger
  simp only [clean_bind_iff, clean_lift_iff, Json.valueAs_of_isObject hObject]
  cases hMember : root.member key with
  | none =>
      have hFits : FitsAt root [key] := by
        intro inner hInner
        rw [hMember] at hInner
        cases hInner
      have hAbsent : integerAt root key = none := by
        unfold integerAt
        rw [hMember]
        rfl
      rw [hAbsent, and_iff_right hFits]
      simp [clean_pure_iff]
  | some value =>
      obtain ⟨n, hInteger, hAbove, -⟩ := h value hMember
      have hWritten : integerAt root key = some n := by
        unfold integerAt
        rw [hMember]
        exact hInteger
      have hFits : FitsAt root [key] ↔ n < 2 ^ 31 := by
        constructor
        · exact fun hFits => hFits value hMember n hInteger
        · intro hBelow inner hInner m hOther
          rw [hMember] at hInner
          injection hInner with hInner
          rw [← hInner, hInteger] at hOther
          injection hOther with hSame
          omega
      have hCast := bmod_eq_self_iff (hLow.trans hAbove)
      rw [hWritten, hFits]
      simp only [Option.map_some, Option.getD_some, Json.getInt_of_integer hInteger,
        clean_record_iff, clean_pure_iff, SettingEvent.Honest]
      constructor
      · rintro ⟨a, hRead, hHonest, hPost⟩
        injection hRead with hRead
        rw [← hRead] at hHonest hPost
        rw [hHonest] at hPost
        exact ⟨hCast.mp hHonest, hPost⟩
      · rintro ⟨hBelow, hPost⟩
        refine ⟨_, rfl, hCast.mpr hBelow, ?_⟩
        rw [hCast.mpr hBelow]
        exact hPost

/-- A read of a member that can be converted. -/
theorem clean_lift_valueAs_iff {α : Type} {convert : Document F → Except JsonError α}
    {fallback : α} {post : α → Prop} (hObject : root.isObject = true)
    (h : ∀ value, root.member key = some value → Returns (convert value)) :
    Clean SettingEvent.Honest
        (Recording.lift (root.valueAs convert key fallback) : Reading α) post ↔
      post (((root.member key).bind fun value => (convert value).toOption).getD fallback) := by
  rw [clean_lift_iff, Json.valueAs_of_isObject hObject]
  cases hMember : root.member key with
  | none => simp
  | some value =>
      obtain ⟨a, hConvert⟩ := h value hMember
      simp [hConvert, Except.toOption]

/-- The number that the document holds at a field, as a `double`. -/
def numberAt (root : Document F) (key : String) : Option (SingleFloat.Double F) :=
  (root.member key).bind fun value => value.getDouble.toOption

/-- Whatever is read as a double is read as a float. -/
theorem returns_getFloat {value : Document F} {x : SingleFloat.Double F}
    (h : value.getDouble = .ok x) : Returns (getFloat value) := by
  cases value with
  | numberInteger raw => exact returns_ok _
  | numberUnsigned raw => exact returns_ok _
  | numberFloat raw => exact returns_ok _
  | _ => cases h

section Fields

variable {bad : SingleFloat.Double F → Bool}

/-- A checked number is read as it is written. -/
theorem clean_readDouble_iff {fallback : SingleFloat.Double F}
    {post : SingleFloat.Double F → Prop} (h : NumberField root key bad)
    (hObject : root.isObject = true) :
    Clean SettingEvent.Honest (readDouble root key fallback) post ↔
      post ((numberAt root key).getD fallback) := by
  apply clean_lift_valueAs_iff hObject
  intro value hMember
  obtain ⟨x, hRead, -⟩ := h value hMember
  exact ⟨x, hRead⟩

/-- The check that the validation made holds of the number or of the default. -/
theorem good_getD_numberAt (h : NumberField root key bad) {fallback : SingleFloat.Double F}
    (hFallback : isFinite fallback = true ∧ bad fallback = false) :
    isFinite ((numberAt root key).getD fallback) = true ∧
      bad ((numberAt root key).getD fallback) = false := by
  unfold numberAt
  cases hMember : root.member key with
  | none => exact hFallback
  | some value =>
      obtain ⟨x, hRead, hGood⟩ := h value hMember
      simp only [Option.bind_some, hRead]
      exact hGood

theorem clean_readFloat_iff {fallback : F} {post : F → Prop} (h : NumberField root key bad)
    (hObject : root.isObject = true) :
    Clean SettingEvent.Honest (readFloat root key fallback) post ↔
      post (((root.member key).bind fun value => (getFloat value).toOption).getD fallback) := by
  apply clean_lift_valueAs_iff hObject
  intro value hMember
  obtain ⟨x, hRead, -⟩ := h value hMember
  exact returns_getFloat hRead

end Fields

theorem clean_readBool_iff {fallback : Bool} {post : Bool → Prop} (h : BoolField root key)
    (hObject : root.isObject = true) :
    Clean SettingEvent.Honest (readBool root key fallback) post ↔
      post (((root.member key).bind fun value => value.getBool.toOption).getD fallback) := by
  apply clean_lift_valueAs_iff hObject
  intro value hMember
  obtain ⟨flag, rfl⟩ := Json.getBool_of_isBoolean (h value hMember)
  exact returns_ok flag

theorem clean_readString_iff {fallback : String} {post : String → Prop}
    (h : StringField root key) (hObject : root.isObject = true) :
    Clean SettingEvent.Honest (readString root key fallback) post ↔
      post (((root.member key).bind fun value => value.getString.toOption).getD fallback) := by
  apply clean_lift_valueAs_iff hObject
  intro value hMember
  obtain ⟨text, rfl⟩ := Json.getString_of_isString (h value hMember)
  exact returns_ok text

/-- The lower bound of a field holds for its fallback too. -/
theorem le_getD_integerAt {low high fallback : Int} (h : IntegerField root key low high)
    (hFallback : low ≤ fallback) : low ≤ (integerAt root key).getD fallback := by
  unfold integerAt
  cases hMember : root.member key with
  | none => exact hFallback
  | some value =>
      obtain ⟨n, hInteger, hAbove, -⟩ := h value hMember
      simp only [Option.bind_some, hInteger]
      exact hAbove

/-- A section is read cleanly if its reader does, or its absence is fine. -/
theorem clean_readObject_iff {α : Type} {absent : α} {read : Document F → Reading α}
    {post : α → Prop} (h : ∀ inner, root.member key = some inner → inner.isObject = true) :
    Clean SettingEvent.Honest (readObject root key absent read) post ↔
      (root.member key = none → post absent) ∧
        ∀ inner, root.member key = some inner → Clean SettingEvent.Honest (read inner) post := by
  unfold readObject Json.contains
  cases hMember : root.member key with
  | none => simp [clean_pure_iff]
  | some inner => simp [clean_bind_iff, clean_lift_iff, Json.index_of_member hMember, h inner hMember]

/-- A replacement is clean exactly if nothing is replaced. -/
theorem clean_replaceIf_iff {α : Type} {bad : Bool} {message : String} {replacement value : α}
    {post : α → Prop} :
    Clean SettingEvent.Honest (replaceIf bad message replacement value) post ↔
      bad = false ∧ post value := by
  unfold replaceIf
  cases bad with
  | false => simp [clean_pure_iff]
  | true => simp [clean_bind_iff, clean_record_iff, SettingEvent.Honest]

/-- An object without errors of its own, where it is there. -/
def ObjectField (parent : Document F) (key : String) (validate : Document F → List String) :
    Prop :=
  ∀ inner, parent.member key = some inner → inner.isObject = true ∧ validate inner = []

section Objects

variable {α : Type} {parent : Document F} {key : String} {validate : Document F → List String}
  {absent : α} {read : Document F → Reading α}

/-- An object whose fields cannot be read wrongly. -/
theorem clean_readObject_const_iff {post : Prop} (h : ObjectField parent key validate)
    (hRead : ∀ inner, inner.isObject = true → validate inner = [] →
      (Clean SettingEvent.Honest (read inner) (fun _ => post) ↔ post)) :
    Clean SettingEvent.Honest (readObject parent key absent read) (fun _ => post) ↔ post := by
  rw [clean_readObject_iff fun inner hMember => (h inner hMember).1]
  cases hMember : parent.member key with
  | none => simp
  | some inner =>
      obtain ⟨hObject, hValid⟩ := h inner hMember
      simp [hRead inner hObject hValid]

/-- An object whose defaults pass and whose fields pass where they fit. -/
theorem clean_readObject_fits_iff {post : α → Prop} {paths : List (List String)}
    (h : ObjectField parent key validate) (hAbsent : post absent)
    (hRead : ∀ inner, inner.isObject = true → validate inner = [] →
      (Clean SettingEvent.Honest (read inner) post ↔ FitsAll inner paths)) :
    Clean SettingEvent.Honest (readObject parent key absent read) post ↔
      FitsAll parent (paths.map (key :: ·)) := by
  rw [clean_readObject_iff fun inner hMember => (h inner hMember).1, and_iff_right fun _ => hAbsent,
    fitsAll_under_iff]
  apply forall₂_congr
  intro inner hMember
  obtain ⟨hObject, hValid⟩ := h inner hMember
  exact hRead inner hObject hValid

end Objects

/-- A written integer or a default above zero is not replaced. -/
theorem getD_integerAt_nonpos_iff {root : Document F} {key : String} {fallback : Int}
    (h : IntegerField root key 1 (2 ^ 63)) (hFallback : 1 ≤ fallback) :
    (integerAt root key).getD fallback ≤ 0 ↔ False :=
  iff_false_intro (Int.not_le.mpr (le_getD_integerAt h hFallback))

/-- A field that is checked not to be negative is not replaced. -/
theorem getD_integerAt_neg_iff {root : Document F} {key : String} {fallback : Int}
    (h : IntegerField root key 0 (2 ^ 63)) (hFallback : 0 ≤ fallback) :
    (integerAt root key).getD fallback < 0 ↔ False :=
  iff_false_intro (Int.not_lt.mpr (le_getD_integerAt h hFallback))

theorem not_or_eq_false_iff {a b : Bool} : (!a || b) = false ↔ a = true ∧ b = false := by
  cases a <;> cases b <;> decide

/-- The validation and the reader find the same integer. -/
theorem value_readIntegerField {root : Document F} {key path : String} {low high : Int}
    (h : IntegerField root key low high) (hHigh : high ≤ 2 ^ 63) :
    (readIntegerField root key path).value = integerAt root key := by
  unfold readIntegerField integerAt
  cases hMember : root.member key with
  | none => rfl
  | some value =>
      obtain ⟨n, hInteger, -, hBelow⟩ := h value hMember
      simp only [Option.bind_some, hInteger, toI64_of_integer hInteger (hBelow.trans_le hHigh)]

end Reading

end DevyFps.Server
