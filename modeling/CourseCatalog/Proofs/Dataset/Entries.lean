import CourseCatalog.Proofs.Json.Records
import CourseCatalog.Requirement.Json
/-!
# Entries of requirement lists

An entry is read completely before it is tried as a leaf and then as a group. An object is
looked at in three places only: for the code, for the grade and for the members of a group.
Each of them must stand there once, under any of its names and anywhere in the object.
-/

namespace CourseCatalog

namespace Json

theorem decodeVariant_eq_ok {α : Type} {type : String} {form? : Value → Option α} {limit : Nat} {d : Document} {a : α} :
    decodeVariant type form? limit d = .ok a ↔ ∃ v, d.value limit = .ok v ∧ form? v = some a := by
  unfold decodeVariant
  constructor
  · intro h
    obtain ⟨v, hv, h⟩ := exists_of_bind_eq_ok h
    cases hf : form? v with
    | none =>
      rw [hf] at h
      cases h
    | some b =>
      rw [hf] at h
      cases h
      exact ⟨v, hv, hf⟩
  · rintro ⟨v, hv, hf⟩
    simp only [hv, hf, bind, Except.bind]

end Json

open Json (Value Document Items Members Spelling decodeVariant decodeVariant_eq_ok exists_of_bind_eq_ok)

namespace Requirement

/-! ## The only member of a name -/

section OnlyMember
variable {names : List String} {name : String} {v : Value} {ms ms' : List (String × Value)}

theorem onlyMember?_perm (h : ms.Perm ms') : onlyMember? names ms = onlyMember? names ms' := by
  unfold onlyMember?
  have hp := h.filter fun m => names.contains m.1
  generalize ms.filter (fun m => names.contains m.1) = l at hp
  generalize ms'.filter (fun m => names.contains m.1) = l' at hp
  rcases l with _ | ⟨a, _ | ⟨b, l⟩⟩
  · obtain rfl := hp.nil_eq
    rfl
  · obtain rfl := List.singleton_perm.1 hp
    rfl
  · have hlen := hp.length_eq
    rcases l' with _ | ⟨a', _ | ⟨b', l'⟩⟩
    · simp at hlen
    · simp at hlen
    · rfl

theorem onlyMember?_cons_of_notMem (h : name ∉ names) : onlyMember? names ((name, v) :: ms) = onlyMember? names ms := by
  simp [onlyMember?, h]

/-- A member of the name is the only one unless there is another. -/
theorem onlyMember?_cons_of_mem (h : name ∈ names) :
    onlyMember? names ((name, v) :: ms) = if ms.filter (fun m => names.contains m.1) = [] then some v else none := by
  have hc : names.contains name = true := List.contains_iff_mem.2 h
  simp only [onlyMember?, List.filter_cons, hc, if_true]
  cases ms.filter (fun m => names.contains m.1) <;> rfl

end OnlyMember

/-! ## Entries from the members of objects -/

/-- The names of the three members that are looked at. -/
def memberNames : List (List String) :=
  [["codeName"], ["minimumGrade", "minimum grade"], ["one of"]]

section Members
variable {name name' : String} {v v' : Value} {vs vs' : List (String × Value)} {r : Requirement} {rs : List Requirement}

/-- Once the members of a group are found, no other may go by the name. -/
theorem groupOfMembers?_some : groupOfMembers? vs (some rs) =
    if vs.filter (fun m => ["one of"].contains m.1) = [] then some rs else none := by
  induction vs with
  | nil => simp [groupOfMembers?]
  | cons m vs ih =>
    obtain ⟨name, v⟩ := m
    by_cases h : name = "one of"
    · simp [groupOfMembers?, h]
    · rw [groupOfMembers?, if_neg h, ih, List.filter_cons_of_neg]
      simpa using h

theorem groupOfMembers?_none : groupOfMembers? vs none = (onlyMember? ["one of"] vs).bind membersOfValue? := by
  induction vs with
  | nil => simp [groupOfMembers?, onlyMember?]
  | cons m vs ih =>
    obtain ⟨name, v⟩ := m
    by_cases h : name = "one of"
    · subst h
      rw [onlyMember?_cons_of_mem (by simp), groupOfMembers?, if_pos rfl]
      cases hv : membersOfValue? v with
      | none => split <;> simp [hv]
      | some rs =>
        simp only [Option.bind_eq_bind, Option.bind_some, groupOfMembers?_some]
        split <;> simp [hv]
    · rw [onlyMember?_cons_of_notMem (by simp [h]), groupOfMembers?, if_neg h, ih]

/-- An object is a leaf, or else a group. -/
theorem ofValue?_object :
    ofValue? (.object vs) = (leafOfMembers? vs).or (((onlyMember? ["one of"] vs).bind membersOfValue?).map oneOf) := by
  rw [ofValue?, groupOfMembers?_none]

/-- What is read from an object depends on three members. -/
theorem ofValue?_congr (h : ∀ names ∈ memberNames, onlyMember? names vs = onlyMember? names vs') :
    ofValue? (.object vs) = ofValue? (.object vs') := by
  rw [ofValue?_object, ofValue?_object, leafOfMembers?, leafOfMembers?, h ["codeName"] (by decide),
    h ["minimumGrade", "minimum grade"] (by decide), h ["one of"] (by decide)]

theorem ofValue?_perm (h : vs.Perm vs') : ofValue? (.object vs) = ofValue? (.object vs') :=
  ofValue?_congr fun _ _ => onlyMember?_perm h

/-- A member may go by another of its names. -/
theorem ofValue?_renamed (h : ∀ names ∈ memberNames, (name ∈ names ↔ name' ∈ names)) :
    ofValue? (.object ((name, v) :: vs)) = ofValue? (.object ((name', v) :: vs)) := by
  refine ofValue?_congr fun names hm => ?_
  by_cases hn : name ∈ names
  · rw [onlyMember?_cons_of_mem hn, onlyMember?_cons_of_mem ((h names hm).1 hn)]
  · rw [onlyMember?_cons_of_notMem hn, onlyMember?_cons_of_notMem (mt (h names hm).2 hn)]

/-- A member of another name is not noticed. -/
theorem ofValue?_cons (h : ∀ names ∈ memberNames, name ∉ names) :
    ofValue? (.object ((name, v) :: vs)) = ofValue? (.object vs) :=
  ofValue?_congr fun names hm => onlyMember?_cons_of_notMem (h names hm)

/-- A leaf does not notice the members of a group. -/
theorem leafOfMembers?_cons : leafOfMembers? (("one of", v) :: vs) = leafOfMembers? vs := by
  rw [leafOfMembers?, leafOfMembers?, onlyMember?_cons_of_notMem (by decide), onlyMember?_cons_of_notMem (by decide)]

theorem leafOfFields?_eq_some {code minimum : Value} (h : leafOfFields? code minimum = some r) : ∃ p, r = course p := by
  unfold leafOfFields? at h
  split at h
  · obtain ⟨g, -, rfl⟩ := Option.map_eq_some_iff.1 h
    exact ⟨_, rfl⟩
  · cases h

/-- An array or object is no field of a leaf, whatever is in it. -/
theorem leafOfFields?_eq_none {w : Value} (hv : ∀ s, v ≠ .string s) :
    leafOfFields? v w = none ∧ leafOfFields? w v = none := by
  cases v with
  | string s => exact absurd rfl (hv s)
  | _ => cases w <;> exact ⟨rfl, rfl⟩

theorem leafOfMembers?_eq_some (h : leafOfMembers? vs = some r) :
    ∃ code minimum, onlyMember? ["codeName"] vs = some code ∧
      onlyMember? ["minimumGrade", "minimum grade"] vs = some minimum ∧ leafOfFields? code minimum = some r := by
  obtain ⟨code, hcode, h⟩ := Option.bind_eq_some_iff.1 h
  obtain ⟨minimum, hminimum, h⟩ := Option.bind_eq_some_iff.1 h
  exact ⟨code, minimum, hcode, hminimum, h⟩

theorem ofValue?_eq_course {p : Prerequisite} :
    ofValue? (.object vs) = some (course p) ↔ leafOfMembers? vs = some (course p) := by
  rw [ofValue?_object, Option.or_eq_some_iff]
  refine ⟨fun h => h.elim id fun h => ?_, Or.inl⟩
  obtain ⟨rs, -, h⟩ := Option.map_eq_some_iff.1 h.2
  cases h

theorem ofValue?_eq_oneOf :
    ofValue? (.object vs) = some (oneOf rs) ↔
      leafOfMembers? vs = none ∧ ∃ v, onlyMember? ["one of"] vs = some v ∧ membersOfValue? v = some rs := by
  rw [ofValue?_object, Option.or_eq_some_iff]
  constructor
  · rintro (h | ⟨hleaf, h⟩)
    · obtain ⟨code, minimum, -, -, h⟩ := leafOfMembers?_eq_some h
      obtain ⟨p, h⟩ := leafOfFields?_eq_some h
      cases h
    · obtain ⟨rs', h, hrs⟩ := Option.map_eq_some_iff.1 h
      cases hrs
      exact ⟨hleaf, Option.bind_eq_some_iff.1 h⟩
  · rintro ⟨hleaf, v, hv, hrs⟩
    exact .inr ⟨hleaf, by rw [hv, Option.bind_some, hrs, Option.map_some]⟩

/-- A value other than the members of a group gives way to one that is the same field of a leaf. -/
theorem ofValue?_exchanged (hn : name ≠ "one of")
    (hcode : name = "codeName" → ∀ minimum, leafOfFields? v minimum = leafOfFields? v' minimum)
    (hminimum : name ∈ ["minimumGrade", "minimum grade"] → ∀ code, leafOfFields? code v = leafOfFields? code v') :
    ofValue? (.object ((name, v) :: vs)) = ofValue? (.object ((name, v') :: vs)) := by
  have hgroup : ∀ w, onlyMember? ["one of"] ((name, w) :: vs) = onlyMember? ["one of"] vs := fun w =>
    onlyMember?_cons_of_notMem (by simpa using hn)
  have hleaf : leafOfMembers? ((name, v) :: vs) = leafOfMembers? ((name, v') :: vs) := by
    unfold leafOfMembers?
    by_cases hc : name = "codeName"
    · have hm : name ∉ ["minimumGrade", "minimum grade"] := by
        subst hc
        decide
      rw [onlyMember?_cons_of_notMem hm, onlyMember?_cons_of_notMem hm, onlyMember?_cons_of_mem (by simp [hc]),
        onlyMember?_cons_of_mem (by simp [hc])]
      split
      · exact congrArg (Option.bind _) (funext (hcode hc))
      · rfl
    · have hc' : name ∉ ["codeName"] := by simpa using hc
      rw [onlyMember?_cons_of_notMem hc', onlyMember?_cons_of_notMem hc']
      by_cases hm : name ∈ ["minimumGrade", "minimum grade"]
      · rw [onlyMember?_cons_of_mem hm, onlyMember?_cons_of_mem hm]
        split
        · exact congrArg (Option.bind _) (funext (hminimum hm))
        · rfl
      · rw [onlyMember?_cons_of_notMem hm, onlyMember?_cons_of_notMem hm]
  rw [ofValue?_object, ofValue?_object, hleaf, hgroup, hgroup]

/-- Without the only member of a name there is none. -/
theorem onlyMember?_of_cons {names : List String} (hn : name ∈ names) {w : Value}
    (h : onlyMember? names ((name, v) :: vs) = some w) : w = v ∧ onlyMember? names vs = none := by
  rw [onlyMember?_cons_of_mem hn] at h
  split at h
  next hnil =>
    cases h
    exact ⟨rfl, by simp only [onlyMember?, hnil]⟩
  next => cases h

end Members

/-! ## Entries from documents -/

section Documents
variable {limit : Nat} {before after ms ms' : List (Spelling × Document)} {name name' : String} {e e' : Document}
  {v : Value} {r : Requirement} {rs : List Requirement}

theorem decode_object :
    decode (limit + 1) (.object (.ofList ms)) = .ok r ↔
      ∃ vs, (Members.ofList ms).values limit = .ok vs ∧ ofValue? (.object vs) = some r := by
  rw [decode, decodeVariant_eq_ok]
  constructor
  · rintro ⟨v, hv, hr⟩
    rw [Document.value] at hv
    obtain ⟨vs, hvs, rfl⟩ := Json.exists_of_map_eq_ok hv
    exact ⟨vs, hvs, hr⟩
  · rintro ⟨vs, hvs, hr⟩
    exact ⟨.object vs, by rw [Document.value, hvs]; rfl, hr⟩

theorem decode_array {ds : List Document} :
    decode (limit + 1) (.array (.ofList ds)) = .ok r ↔
      ∃ vs, (Items.ofList ds).values limit = .ok vs ∧ ofValue? (.array vs) = some r := by
  rw [decode, decodeVariant_eq_ok]
  constructor
  · rintro ⟨v, hv, hr⟩
    rw [Document.value] at hv
    obtain ⟨vs, hvs, rfl⟩ := Json.exists_of_map_eq_ok hv
    exact ⟨vs, hvs, hr⟩
  · rintro ⟨vs, hvs, hr⟩
    exact ⟨.array vs, by rw [Document.value, hvs]; rfl, hr⟩

/-- One member of an object that is read as an entry, and the others. -/
theorem decode_split (h : decode (limit + 1) (.object (.ofList (before ++ (.ok name, e) :: after))) = .ok r) :
    ∃ v vs, e.value limit = .ok v ∧ (Members.ofList (before ++ after)).values limit = .ok vs ∧
      ofValue? (.object ((name, v) :: vs)) = some r := by
  obtain ⟨ws, hws, hr⟩ := decode_object.1 h
  obtain ⟨v, vs, hv, hvs, hp⟩ := Members.values_split hws
  exact ⟨v, vs, hv, hvs, by rw [← ofValue?_perm hp, hr]⟩

theorem decode_insert {vs : List (String × Value)} (hv : e.value limit = .ok v)
    (hvs : (Members.ofList (before ++ after)).values limit = .ok vs)
    (hr : ofValue? (.object ((name, v) :: vs)) = some r) :
    decode (limit + 1) (.object (.ofList (before ++ (.ok name, e) :: after))) = .ok r := by
  obtain ⟨ws, hws, hp⟩ := Members.values_insert hv hvs
  exact decode_object.2 ⟨ws, hws, by rw [ofValue?_perm hp, hr]⟩

/-- The order of the members does not matter. -/
theorem decode_perm (h : decode (limit + 1) (.object (.ofList ms)) = .ok r) (hp : ms.Perm ms') :
    decode (limit + 1) (.object (.ofList ms')) = .ok r := by
  obtain ⟨vs, hvs, hr⟩ := decode_object.1 h
  obtain ⟨vs', hvs', hp'⟩ := Members.values_perm hvs hp
  exact decode_object.2 ⟨vs', hvs', by rw [← ofValue?_perm hp', hr]⟩

/-- A member gives way to one that is read as the same. -/
theorem decode_replace (h : decode (limit + 1) (.object (.ofList (before ++ (.ok name, e) :: after))) = .ok r)
    (he : ∀ v, e.value limit = .ok v → ∃ v', e'.value limit = .ok v' ∧
      ∀ vs, ofValue? (.object ((name, v) :: vs)) = ofValue? (.object ((name', v') :: vs))) :
    decode (limit + 1) (.object (.ofList (before ++ (.ok name', e') :: after))) = .ok r := by
  obtain ⟨v, vs, hv, hvs, hr⟩ := decode_split h
  obtain ⟨v', hv', heq⟩ := he v hv
  exact decode_insert hv' hvs (by rw [← heq, hr])

/-- A member that is not noticed may be there as well. -/
theorem decode_added (h : decode (limit + 1) (.object (.ofList (before ++ after))) = .ok r) (hv : e.value limit = .ok v)
    (hr : ∀ vs, ofValue? (.object vs) = some r → ofValue? (.object ((name, v) :: vs)) = some r) :
    decode (limit + 1) (.object (.ofList (before ++ (.ok name, e) :: after))) = .ok r := by
  obtain ⟨vs, hvs, hr'⟩ := decode_object.1 h
  exact decode_insert hv hvs (hr vs hr')

/-- An entry list is the list of the entries of its complete values. -/
theorem decodeItems_eq_ok : ∀ {items : Items} {rs : List Requirement},
    Json.decodeItems decode limit items = .ok rs ↔ ∃ vs, items.values limit = .ok vs ∧ ofValues? vs = some rs
  | .closed, rs => by
    constructor
    · intro h
      cases h
      exact ⟨[], rfl, by rw [ofValues?]⟩
    · rintro ⟨vs, hvs, hrs⟩
      cases hvs
      cases hrs
      rfl
  | .broken b, rs => by
    constructor
    · intro h
      cases h
    · rintro ⟨vs, hvs, -⟩
      cases hvs
  | .cons item rest, rs => by
    rw [Json.decodeItems, Items.values]
    constructor
    · intro h
      obtain ⟨r, hr, h⟩ := exists_of_bind_eq_ok h
      obtain ⟨rs, hrs, h⟩ := exists_of_bind_eq_ok h
      cases h
      obtain ⟨v, hv, hr⟩ := decodeVariant_eq_ok.1 hr
      obtain ⟨vs, hvs, hrs⟩ := decodeItems_eq_ok.1 hrs
      exact ⟨v :: vs, by rw [hv, hvs]; rfl, by rw [ofValues?, hr, hrs]; rfl⟩
    · rintro ⟨ws, hws, hrs⟩
      obtain ⟨v, hv, hws⟩ := exists_of_bind_eq_ok hws
      obtain ⟨vs, hvs, hws⟩ := exists_of_bind_eq_ok hws
      cases hws
      rw [ofValues?] at hrs
      obtain ⟨r, hr, hrs⟩ := Option.bind_eq_some_iff.1 hrs
      obtain ⟨rs', hrs', hrs⟩ := Option.bind_eq_some_iff.1 hrs
      cases hrs
      rw [show decode limit item = .ok r from decodeVariant_eq_ok.2 ⟨v, hv, hr⟩, decodeItems_eq_ok.2 ⟨vs, hvs, hrs'⟩]
      rfl

theorem decodeAll_eq_ok : decodeAll limit e = .ok rs ↔ ∃ v, e.value limit = .ok v ∧ membersOfValue? v = some rs := by
  constructor
  · intro h
    cases e with
    | array items =>
      cases limit with
      | zero => cases h
      | succ limit =>
        obtain ⟨vs, hvs, hrs⟩ := decodeItems_eq_ok.1 h
        exact ⟨.array vs, by rw [Document.value, hvs]; rfl, by rw [membersOfValue?, hrs]⟩
    | _ => cases limit <;> cases h
  · rintro ⟨v, hv, hrs⟩
    cases v with
    | array vs =>
      obtain ⟨items, rfl⟩ := Document.eq_array_of_value hv
      obtain ⟨k, ws, rfl, hws, h⟩ := Document.value_array hv
      cases h
      rw [membersOfValue?] at hrs
      exact decodeItems_eq_ok.2 ⟨vs, hws, hrs⟩
    | _ => cases hrs

/-! ## Groups -/

theorem decodeAll_of_group
    (h : decode (limit + 1) (.object (.ofList (before ++ (.ok "one of", e) :: after))) = .ok (oneOf rs)) :
    decodeAll limit e = .ok rs := by
  obtain ⟨v, vs, hv, -, hr⟩ := decode_split h
  obtain ⟨-, w, hw, hrs⟩ := ofValue?_eq_oneOf.1 hr
  obtain ⟨rfl, -⟩ := onlyMember?_of_cons (by decide) hw
  exact decodeAll_eq_ok.2 ⟨w, hv, hrs⟩

/-- The list of a group gives way to one with the same members. -/
theorem decode_group_replace
    (h : decode (limit + 1) (.object (.ofList (before ++ (.ok "one of", e) :: after))) = .ok (oneOf rs))
    (he : decodeAll limit e' = .ok rs) :
    decode (limit + 1) (.object (.ofList (before ++ (.ok "one of", e') :: after))) = .ok (oneOf rs) := by
  obtain ⟨v, vs, hv, hvs, hr⟩ := decode_split h
  obtain ⟨v', hv', hrs⟩ := decodeAll_eq_ok.1 he
  obtain ⟨hleaf, w, hw, -⟩ := ofValue?_eq_oneOf.1 hr
  refine decode_insert hv' hvs (ofValue?_eq_oneOf.2 ⟨?_, v', ?_, hrs⟩)
  · rwa [leafOfMembers?_cons] at hleaf ⊢
  · rw [onlyMember?_cons_of_mem (by decide)] at hw ⊢
    split at hw
    next hnil => rw [if_pos hnil]
    next => cases hw

/-- A group does not become a leaf by another list, so an unreadable one is not passed over. -/
theorem exists_decodeAll_of_group
    (h : decode (limit + 1) (.object (.ofList (before ++ (.ok "one of", e) :: after))) = .ok (oneOf rs))
    (he : decode (limit + 1) (.object (.ofList (before ++ (.ok "one of", e') :: after))) = .ok r) :
    ∃ rs', decodeAll limit e' = .ok rs' := by
  obtain ⟨v, vs, -, hvs, hr⟩ := decode_split h
  obtain ⟨v', vs', hv', hvs', hr'⟩ := decode_split he
  obtain rfl : vs = vs' := by simpa [hvs] using hvs'
  have hleaf := (ofValue?_eq_oneOf.1 hr).1
  rw [leafOfMembers?_cons] at hleaf
  cases r with
  | course p =>
    have := ofValue?_eq_course.1 hr'
    rw [leafOfMembers?_cons, hleaf] at this
    cases this
  | oneOf rs' =>
    obtain ⟨-, w, hw, hrs⟩ := ofValue?_eq_oneOf.1 hr'
    obtain ⟨rfl, -⟩ := onlyMember?_of_cons (by decide) hw
    exact ⟨rs', decodeAll_eq_ok.2 ⟨w, hv', hrs⟩⟩

/-- The array of its only field is a group. -/
theorem decode_single : decode (limit + 1) (.array (.ofList [e])) = .ok r ↔ ∃ rs, decodeAll limit e = .ok rs ∧ r = oneOf rs := by
  rw [decode_array]
  constructor
  · rintro ⟨vs, hvs, hr⟩
    obtain ⟨v, ws, hv, hws, rfl⟩ := List.forall₂_cons_left_iff.1 (Items.values_ofList.1 hvs)
    cases hws
    rw [ofValue?] at hr
    obtain ⟨rs, hrs, rfl⟩ := Option.map_eq_some_iff.1 hr
    exact ⟨rs, decodeAll_eq_ok.2 ⟨v, hv, hrs⟩, rfl⟩
  · rintro ⟨rs, hrs, rfl⟩
    obtain ⟨v, hv, hrs⟩ := decodeAll_eq_ok.1 hrs
    exact ⟨[v], Items.values_ofList.2 (.cons hv .nil), by rw [ofValue?, hrs, Option.map_some]⟩

/-! ## Leaves -/

/-- The array of its two fields is a leaf. -/
theorem decode_pair :
    decode (limit + 1) (.array (.ofList [e, e'])) = .ok r ↔
      ∃ v v', e.value limit = .ok v ∧ e'.value limit = .ok v' ∧ leafOfFields? v v' = some r := by
  rw [decode_array]
  constructor
  · rintro ⟨vs, hvs, hr⟩
    obtain ⟨v, ws, hv, hws, rfl⟩ := List.forall₂_cons_left_iff.1 (Items.values_ofList.1 hvs)
    obtain ⟨v', us, hv', hus, rfl⟩ := List.forall₂_cons_left_iff.1 hws
    cases hus
    rw [ofValue?] at hr
    exact ⟨v, v', hv, hv', hr⟩
  · rintro ⟨v, v', hv, hv', hr⟩
    exact ⟨[v, v'], Items.values_ofList.2 (.cons hv (.cons hv' .nil)), by rw [ofValue?, hr]⟩

/-- Whatever stands under `one of`, a leaf stays a leaf. -/
theorem decode_leaf_added {p : Prerequisite} (h : decode (limit + 1) (.object (.ofList (before ++ after))) = .ok (course p))
    (hv : e.value limit = .ok v) :
    decode (limit + 1) (.object (.ofList (before ++ (.ok "one of", e) :: after))) = .ok (course p) :=
  decode_added h hv fun vs hr => by rw [ofValue?_eq_course, leafOfMembers?_cons, ← ofValue?_eq_course, hr]

theorem decode_leaf_exchanged {p : Prerequisite}
    (h : decode (limit + 1) (.object (.ofList (before ++ (.ok "one of", e) :: after))) = .ok (course p))
    (hv : e'.value limit = .ok v) :
    decode (limit + 1) (.object (.ofList (before ++ (.ok "one of", e') :: after))) = .ok (course p) := by
  obtain ⟨w, vs, -, hvs, hr⟩ := decode_split h
  rw [ofValue?_eq_course, leafOfMembers?_cons] at hr
  exact decode_insert hv hvs (by rw [ofValue?_eq_course, leafOfMembers?_cons, hr])

/-! ## Objects written as arrays -/

/-- The array of the two fields of a leaf is the leaf. -/
theorem decode_leaf_listed {p : Prerequisite} {default : String → Document} {ds : List Document}
    (h : decode (limit + 1) (.object (.ofList ms)) = .ok (course p))
    (hl : Json.Listed default Prerequisite.recordType.fields ms ds) :
    decode (limit + 1) (.array (.ofList ds)) = .ok (course p) := by
  obtain ⟨before, code, c, after, rest, rfl, hcode, hrest, rfl⟩ := hl.of_needed rfl
  obtain ⟨before', minimum, g, after', rest, hms, hminimum, hnil, rfl⟩ := hrest.of_needed rfl
  obtain rfl := hnil.of_nil
  replace hcode : code = "codeName" := by simpa [Json.Field.named, Json.Field.of] using hcode
  replace hminimum : minimum ∈ ["minimumGrade", "minimum grade"] := by
    simpa [Json.Field.named, Json.Field.of] using hminimum
  obtain ⟨v, vs, hv, hvs, hr⟩ := decode_split h
  rw [hms] at hvs
  obtain ⟨w, ws, hw, -, hp⟩ := Members.values_split hvs
  obtain ⟨x, y, hx, hy, hleaf⟩ := leafOfMembers?_eq_some (ofValue?_eq_course.1 hr)
  obtain ⟨rfl, -⟩ := onlyMember?_of_cons (by simp [hcode]) hx
  rw [onlyMember?_cons_of_notMem (by simp [hcode]), onlyMember?_perm hp] at hy
  obtain ⟨rfl, -⟩ := onlyMember?_of_cons hminimum hy
  exact decode_pair.2 ⟨x, y, hv, hw, hleaf⟩

/-- The array of the only field of a group is the group. -/
theorem decode_group_listed {default : String → Document} {ds : List Document}
    (h : decode (limit + 1) (.object (.ofList ms)) = .ok (oneOf rs))
    (hl : Json.Listed default groupRecordType.fields ms ds) :
    decode (limit + 1) (.array (.ofList ds)) = .ok (oneOf rs) := by
  obtain ⟨before, name, d, after, rest, rfl, hn, hnil, rfl⟩ := hl.of_needed rfl
  obtain rfl := hnil.of_nil
  obtain rfl : name = "one of" := by simpa [Json.Field.named, Json.Field.of] using hn
  exact decode_single.2 ⟨rs, decodeAll_of_group h, rfl⟩

/-! ## Without a member -/

/-- What is no leaf and has no list of members is nothing. -/
theorem decode_ne_ok {vs : List (String × Value)} (hvs : (Members.ofList ms).values limit = .ok vs)
    (hleaf : leafOfMembers? vs = none) (hgroup : onlyMember? ["one of"] vs = none) :
    decode (limit + 1) (.object (.ofList ms)) ≠ .ok r := by
  intro h
  obtain ⟨ws, hws, hr⟩ := decode_object.1 h
  obtain rfl : vs = ws := by simpa [hvs] using hws
  simp [ofValue?_object, hleaf, hgroup] at hr

theorem onlyMember?_eq_none {names : List String} {vs : List (String × Value)} (h : ∀ m ∈ vs, m.1 ∉ names) :
    onlyMember? names vs = none := by
  have hf : vs.filter (fun m => names.contains m.1) = [] :=
    List.filter_eq_nil_iff.2 fun m hm => by simpa using h m hm
  simp only [onlyMember?, hf]

/-- A leaf is nothing without its code or its grade, unless it has a list of members as well. -/
theorem decode_leaf_omitted {p : Prerequisite} (hn : name ∈ ["codeName", "minimumGrade", "minimum grade"])
    (h : decode (limit + 1) (.object (.ofList (before ++ (.ok name, e) :: after))) = .ok (course p))
    (hone : ∀ d, (.ok "one of", d) ∉ before ++ after) :
    decode (limit + 1) (.object (.ofList (before ++ after))) ≠ .ok r := by
  obtain ⟨v, vs, -, hvs, hr⟩ := decode_split h
  obtain ⟨code, minimum, hcode, hminimum, -⟩ := leafOfMembers?_eq_some (ofValue?_eq_course.1 hr)
  refine decode_ne_ok hvs ?_ (onlyMember?_eq_none fun m hm hone' => ?_)
  · unfold leafOfMembers?
    rcases List.mem_cons.1 hn with rfl | hn
    · rw [(onlyMember?_of_cons (by decide) hcode).2]
      rfl
    · rw [(onlyMember?_of_cons hn hminimum).2]
      cases onlyMember? ["codeName"] vs <;> rfl
  · obtain ⟨d, hd⟩ := Members.mem_of_values hvs hm
    exact hone d (List.mem_singleton.1 hone' ▸ hd)

/-- A group is nothing without its list. -/
theorem decode_group_omitted
    (h : decode (limit + 1) (.object (.ofList (before ++ (.ok "one of", e) :: after))) = .ok (oneOf rs)) :
    decode (limit + 1) (.object (.ofList (before ++ after))) ≠ .ok r := by
  obtain ⟨v, vs, -, hvs, hr⟩ := decode_split h
  obtain ⟨hleaf, w, hw, -⟩ := ofValue?_eq_oneOf.1 hr
  rw [leafOfMembers?_cons] at hleaf
  exact decode_ne_ok hvs hleaf (onlyMember?_of_cons (by decide) hw).2

end Documents

end Requirement

end CourseCatalog
