import CourseCatalog.Proofs.Json.Depth
import Mathlib.Data.List.Perm.Basic
/-!
# The parts of a document

Arrays and objects that close are lists of their parts. Reading them to the end reads each
part, and the order of the members only decides the order of what is read. A value that
nothing is taken from can have its members put in another order, renamed and added to, as
deep in it as may be, and still be read past.
-/

namespace CourseCatalog.Json

/-! ## Lists of parts -/

/-- An array's items, which then close. -/
def Items.ofList : List Document → Items
  | [] => .closed
  | d :: rest => .cons d (ofList rest)

/-- An object's members, which then close. -/
def Members.ofList : List (Spelling × Document) → Members
  | [] => .closed
  | (name, d) :: rest => .cons name d (ofList rest)

/-! ## Items that are decoded -/

section Items
variable {α : Type} {decoder : Decoder α} {depth : Nat} {e e' : Document} {before after : List Document} {xs : List α}

/-- Each item of an array that is decoded is decoded by itself. -/
theorem exists_of_decodeItems (h : decodeItems decoder depth (.ofList (before ++ e :: after)) = .ok xs) :
    ∃ x, decoder depth e = .ok x := by
  induction before generalizing xs with
  | nil =>
    obtain ⟨x, hx, -⟩ := exists_of_bind_eq_ok h
    exact ⟨x, hx⟩
  | cons d before ih =>
    obtain ⟨_, _, h⟩ := exists_of_bind_eq_ok h
    obtain ⟨ys, hys, -⟩ := exists_of_bind_eq_ok h
    exact ih hys

/-- An item gives way to any that is decoded to the same. -/
theorem decodeItems_replace (h : decodeItems decoder depth (.ofList (before ++ e :: after)) = .ok xs)
    (he : ∀ x, decoder depth e = .ok x → decoder depth e' = .ok x) :
    decodeItems decoder depth (.ofList (before ++ e' :: after)) = .ok xs := by
  induction before generalizing xs with
  | nil =>
    obtain ⟨x, hx, h⟩ := exists_of_bind_eq_ok h
    exact (congrArg (· >>= _) (he x hx)).trans h
  | cons d before ih =>
    obtain ⟨x, hx, h⟩ := exists_of_bind_eq_ok h
    obtain ⟨ys, hys, h⟩ := exists_of_bind_eq_ok h
    simp only [List.cons_append, Items.ofList, decodeItems, hx, ih hys]
    exact h

end Items

/-! ## Complete values -/

theorem Document.value_array {limit : Nat} {items : Items} {v : Value} (h : (Document.array items).value limit = .ok v) :
    ∃ k vs, limit = k + 1 ∧ items.values k = .ok vs ∧ v = .array vs := by
  cases limit with
  | zero =>
    rw [Document.value] at h
    cases h
  | succ k =>
    rw [Document.value] at h
    obtain ⟨vs, hvs, rfl⟩ := exists_of_map_eq_ok h
    exact ⟨k, vs, rfl, hvs, rfl⟩

theorem Document.value_object {limit : Nat} {members : Members} {v : Value}
    (h : (Document.object members).value limit = .ok v) :
    ∃ k vs, limit = k + 1 ∧ members.values k = .ok vs ∧ v = .object vs := by
  cases limit with
  | zero =>
    rw [Document.value] at h
    cases h
  | succ k =>
    rw [Document.value] at h
    obtain ⟨vs, hvs, rfl⟩ := exists_of_map_eq_ok h
    exact ⟨k, vs, rfl, hvs, rfl⟩

/-- A member is read completely: its name means something and its value is within the limit. -/
def Reads (limit : Nat) (m : Spelling × Document) (w : String × Value) : Prop :=
  m.1 = .ok w.1 ∧ m.2.value limit = .ok w.2

theorem Items.values_ofList {limit : Nat} {ds : List Document} {vs : List Value} :
    (Items.ofList ds).values limit = .ok vs ↔ ds.Forall₂ (fun d v => d.value limit = .ok v) vs := by
  induction ds generalizing vs with
  | nil => simp [Items.ofList, Items.values, eq_comm]
  | cons d ds ih =>
    rw [Items.ofList, Items.values, List.forall₂_cons_left_iff]
    constructor
    · intro h
      obtain ⟨v, hv, h⟩ := exists_of_bind_eq_ok h
      obtain ⟨vs, hvs, h⟩ := exists_of_bind_eq_ok h
      cases h
      exact ⟨v, vs, hv, ih.1 hvs, rfl⟩
    · rintro ⟨v, vs, hv, hvs, rfl⟩
      rw [hv, ih.2 hvs]
      rfl

theorem Members.values_ofList {limit : Nat} {ms : List (Spelling × Document)} {vs : List (String × Value)} :
    (Members.ofList ms).values limit = .ok vs ↔ ms.Forall₂ (Reads limit) vs := by
  induction ms generalizing vs with
  | nil => simp [Members.ofList, Members.values, eq_comm]
  | cons m ms ih =>
    obtain ⟨name, d⟩ := m
    rw [Members.ofList, Members.values, List.forall₂_cons_left_iff]
    constructor
    · intro h
      obtain ⟨n, hn, h⟩ := exists_of_bind_eq_ok h
      obtain ⟨v, hv, h⟩ := exists_of_bind_eq_ok h
      obtain ⟨vs, hvs, h⟩ := exists_of_bind_eq_ok h
      cases h
      exact ⟨(n, v), vs, ⟨hn, hv⟩, ih.1 hvs, rfl⟩
    · rintro ⟨⟨n, v⟩, vs, ⟨hn, hv⟩, hvs, rfl⟩
      simp only at hn hv
      rw [hn, hv, ih.2 hvs]
      rfl

/-- When all of a list goes through, it still does with another element that does in the place of one. -/
theorem forall₂_replace {α β : Type} {r : α → β → Prop} {before after : List α} {a : α} {bs : List β}
    (h : (before ++ a :: after).Forall₂ r bs) (a' : α) (ha : ∀ b, r a b → ∃ b', r a' b') :
    ∃ bs', (before ++ a' :: after).Forall₂ r bs' := by
  obtain ⟨cs, hcs, -⟩ := List.perm_comp_forall₂ List.perm_middle.symm h
  obtain ⟨c, ds, hc, hds, rfl⟩ := List.forall₂_cons_left_iff.1 hcs
  obtain ⟨c', hc'⟩ := ha c hc
  obtain ⟨bs', hbs', -⟩ := List.perm_comp_forall₂ List.perm_middle (List.Forall₂.cons hc' hds)
  exact ⟨bs', hbs'⟩

section Members
variable {limit : Nat} {ms ms' before after : List (Spelling × Document)} {vs ws : List (String × Value)}
  {name : String} {e : Document} {v : Value}

/-- Each member that is read has its name. -/
theorem Members.mem_of_values (h : (Members.ofList ms).values limit = .ok vs) {w : String × Value} (hw : w ∈ vs) :
    ∃ d, (.ok w.1, d) ∈ ms := by
  obtain ⟨i, hi, rfl⟩ := List.getElem_of_mem hw
  have hf := Members.values_ofList.1 h
  have hl : i < ms.length := by rwa [hf.length_eq]
  have hr : Reads limit ms[i] vs[i] := hf.get hl hi
  exact ⟨ms[i].2, by rw [← hr.1]; exact List.getElem_mem hl⟩

/-- In another order the same members are read, in that order. -/
theorem Members.values_perm (h : (Members.ofList ms).values limit = .ok vs) (hp : ms.Perm ms') :
    ∃ vs', (Members.ofList ms').values limit = .ok vs' ∧ vs.Perm vs' := by
  obtain ⟨vs', hvs', hp'⟩ := List.perm_comp_forall₂ hp.symm (Members.values_ofList.1 h)
  exact ⟨vs', Members.values_ofList.2 hvs', hp'.symm⟩

/-- One member is read apart from the others. -/
theorem Members.values_split (h : (Members.ofList (before ++ (.ok name, e) :: after)).values limit = .ok vs) :
    ∃ v ws, e.value limit = .ok v ∧ (Members.ofList (before ++ after)).values limit = .ok ws ∧
      vs.Perm ((name, v) :: ws) := by
  obtain ⟨us, hus, hp⟩ := Members.values_perm h List.perm_middle
  obtain ⟨⟨n, v⟩, ws, ⟨hn, hv⟩, hws, rfl⟩ := List.forall₂_cons_left_iff.1 (Members.values_ofList.1 hus)
  cases hn
  exact ⟨v, ws, hv, Members.values_ofList.2 hws, hp⟩

/-- A member that is read can stand anywhere among the others. -/
theorem Members.values_insert (hv : e.value limit = .ok v)
    (h : (Members.ofList (before ++ after)).values limit = .ok ws) :
    ∃ vs, (Members.ofList (before ++ (.ok name, e) :: after)).values limit = .ok vs ∧ vs.Perm ((name, v) :: ws) := by
  have h' : (Members.ofList ((.ok name, e) :: (before ++ after))).values limit = .ok ((name, v) :: ws) :=
    Members.values_ofList.2 (.cons ⟨rfl, hv⟩ (Members.values_ofList.1 h))
  obtain ⟨vs, hvs, hp⟩ := Members.values_perm h' List.perm_middle.symm
  exact ⟨vs, hvs, hp.symm⟩

end Members

/-- Only an array is read as an array. -/
theorem Document.eq_array_of_value {limit : Nat} {d : Document} {vs : List Value} (h : d.value limit = .ok (.array vs)) :
    ∃ items, d = .array items := by
  cases d with
  | array items => exact ⟨items, rfl⟩
  | object members =>
    obtain ⟨k, ws, -, -, h⟩ := Document.value_object h
    cases h
  | string s => cases s <;> cases h
  | number n =>
    rw [Document.value] at h
    split at h <;> cases h
  | _ => cases h

/-! ## Passing over -/

theorem Document.pass_eq_ok {d : Document} : d.pass = .ok () ↔ d.passFault? = none := by
  unfold Document.pass
  cases d.passFault? <;> simp

theorem Items.passFault?_ofList (ds : List Document) :
    (Items.ofList ds).passFault? = none ↔ ∀ d ∈ ds, d.passFault? = none := by
  induction ds with
  | nil => simp [Items.ofList, Items.passFault?]
  | cons d ds ih => rw [Items.ofList, Items.passFault?, Option.or_eq_none_iff, ih, List.forall_mem_cons]

theorem Members.passFault?_ofList (ms : List (Spelling × Document)) :
    (Members.ofList ms).passFault? = none ↔ ∀ m ∈ ms, m.2.passFault? = none := by
  induction ms with
  | nil => simp [Members.ofList, Members.passFault?]
  | cons m ms ih => rw [Members.ofList, Members.passFault?, Option.or_eq_none_iff, ih, List.forall_mem_cons]

mutual

/-- A complete value has no break to be met. -/
theorem Value.passFault?_document : ∀ v : Value, v.document.passFault? = none
  | .null => by simp [Value.document, Document.passFault?]
  | .bool _ => by simp [Value.document, Document.passFault?]
  | .number _ => by simp [Value.document, Document.passFault?]
  | .string _ => by simp [Value.document, Document.passFault?]
  | .array items => by simp [Value.document, Document.passFault?, passFault?_documentOfItems items]
  | .object members => by simp [Value.document, Document.passFault?, passFault?_documentOfMembers members]

theorem passFault?_documentOfItems (vs : List Value) : (documentOfItems vs).passFault? = none := by
  cases vs with
  | nil => simp [documentOfItems, Items.passFault?]
  | cons v vs => simp [documentOfItems, Items.passFault?, v.passFault?_document, passFault?_documentOfItems vs]

theorem passFault?_documentOfMembers (ms : List (String × Value)) : (documentOfMembers ms).passFault? = none := by
  cases ms with
  | nil => simp [documentOfMembers, Members.passFault?]
  | cons m ms =>
    simp [documentOfMembers, Members.passFault?, m.2.passFault?_document, passFault?_documentOfMembers ms]

end

/-! ## Values that nothing is taken from -/

/-- A value with finite numbers that nests no deeper than the limit. -/
structure Value.Within (limit : Nat) (v : Value) : Prop where
  finite : v.Finite
  depth_le : v.depth ≤ limit

theorem Value.Within.value_document {limit : Nat} {v : Value} (h : v.Within limit) :
    v.document.value limit = .ok v := by
  rw [v.value_document limit h.finite, within_eq_ok h.depth_le]

/-- Somewhere in a value the members of an object are put in another order, one is renamed or
one is added. -/
inductive Rearranged : Nat → Document → Document → Prop
  | permuted {limit : Nat} {ms ms' : List (Spelling × Document)} (h : ms.Perm ms') :
    Rearranged limit (.object (.ofList ms)) (.object (.ofList ms'))
  | renamed {limit : Nat} {before after : List (Spelling × Document)} {e : Document} (name name' : String) :
    Rearranged limit (.object (.ofList (before ++ (.ok name, e) :: after)))
      (.object (.ofList (before ++ (.ok name', e) :: after)))
  | added {limit : Nat} {before after : List (Spelling × Document)} (name : String) {v : Value}
    (h : v.Within (limit - 1)) :
    Rearranged limit (.object (.ofList (before ++ after)))
      (.object (.ofList (before ++ (.ok name, v.document) :: after)))
  | item {limit : Nat} {before after : List Document} {e e' : Document} (h : Rearranged (limit - 1) e e') :
    Rearranged limit (.array (.ofList (before ++ e :: after))) (.array (.ofList (before ++ e' :: after)))
  | member {limit : Nat} {before after : List (Spelling × Document)} {name : Spelling} {e e' : Document}
    (h : Rearranged (limit - 1) e e') :
    Rearranged limit (.object (.ofList (before ++ (name, e) :: after)))
      (.object (.ofList (before ++ (name, e') :: after)))

namespace Rearranged
variable {limit : Nat} {d d' : Document}

/-- What could be passed over still can be. -/
theorem passFault?_eq_none (h : Rearranged limit d d') (hd : d.passFault? = none) : d'.passFault? = none := by
  induction h with
  | permuted h =>
    rw [Document.passFault?, Members.passFault?_ofList] at hd ⊢
    exact fun m hm => hd m (h.mem_iff.2 hm)
  | renamed name name' =>
    rw [Document.passFault?, Members.passFault?_ofList] at hd ⊢
    simpa only [List.forall_mem_append, List.forall_mem_cons] using hd
  | added name h =>
    rw [Document.passFault?, Members.passFault?_ofList] at hd ⊢
    simp only [List.forall_mem_append, List.forall_mem_cons] at hd ⊢
    exact ⟨hd.1, Value.passFault?_document _, hd.2⟩
  | item h ih =>
    rw [Document.passFault?, Items.passFault?_ofList] at hd ⊢
    simp only [List.forall_mem_append, List.forall_mem_cons] at hd ⊢
    exact ⟨hd.1, ih hd.2.1, hd.2.2⟩
  | member h ih =>
    rw [Document.passFault?, Members.passFault?_ofList] at hd ⊢
    simp only [List.forall_mem_append, List.forall_mem_cons] at hd ⊢
    exact ⟨hd.1, ih hd.2.1, hd.2.2⟩

/-- The array or object that could be read still can be, and is still an array or object. -/
theorem value_eq_ok (h : Rearranged limit d d') {v : Value} (hd : d.value limit = .ok v) :
    (∃ v', d'.value limit = .ok v' ∧ ∀ s, v' ≠ .string s) ∧ ∀ s, v ≠ .string s := by
  induction h generalizing v with
  | permuted h =>
    obtain ⟨k, vs, rfl, hvs, rfl⟩ := Document.value_object hd
    obtain ⟨vs', hvs', -⟩ := Members.values_perm hvs h
    exact ⟨⟨.object vs', by rw [Document.value, hvs']; rfl, nofun⟩, nofun⟩
  | renamed name name' =>
    obtain ⟨k, vs, rfl, hvs, rfl⟩ := Document.value_object hd
    obtain ⟨w, ws, hw, hws, -⟩ := Members.values_split hvs
    obtain ⟨vs', hvs', -⟩ := Members.values_insert hw hws
    exact ⟨⟨.object vs', by rw [Document.value, hvs']; rfl, nofun⟩, nofun⟩
  | added name h =>
    obtain ⟨k, vs, rfl, hvs, rfl⟩ := Document.value_object hd
    have h : Value.Within k _ := h
    obtain ⟨vs', hvs', -⟩ := Members.values_insert h.value_document hvs
    exact ⟨⟨.object vs', by rw [Document.value, hvs']; rfl, nofun⟩, nofun⟩
  | @item _ _ _ e e' h ih =>
    obtain ⟨k, vs, rfl, hvs, rfl⟩ := Document.value_array hd
    obtain ⟨vs', hvs'⟩ := forall₂_replace (Items.values_ofList.1 hvs) e' fun w hw =>
      (ih hw).1.imp fun _ h => h.1
    exact ⟨⟨.array vs', by rw [Document.value, Items.values_ofList.2 hvs']; rfl, nofun⟩, nofun⟩
  | @member _ _ _ name e e' h ih =>
    obtain ⟨k, vs, rfl, hvs, rfl⟩ := Document.value_object hd
    obtain ⟨vs', hvs'⟩ := forall₂_replace (Members.values_ofList.1 hvs) (name, e') fun w hw =>
      (ih hw.2).1.elim fun v' h => ⟨(w.1, v'), hw.1, h.1⟩
    exact ⟨⟨.object vs', by rw [Document.value, Members.values_ofList.2 hvs']; rfl, nofun⟩, nofun⟩

end Rearranged

end CourseCatalog.Json
