import CourseCatalog.Json.Decoding
/-!
# Reading to a depth

A complete value is read back as it was unless it nests deeper than the limit, and this
is then the first fault. What was read never nests deeper than the limit.
-/

namespace CourseCatalog.Json

/-! ## Results within a limit -/

/-- The result of reading what has a depth: the limit is the only thing that can be in the way. -/
def within {α : Type} (limit depth : Nat) (a : α) : Except Fault α :=
  if depth ≤ limit then .ok a else .error .tooDeep

variable {α β γ : Type}

theorem within_eq_ok {limit depth : Nat} (h : depth ≤ limit) (a : α) : within limit depth a = .ok a :=
  if_pos h

@[simp]
theorem within_zero (limit : Nat) (a : α) : within limit 0 a = .ok a :=
  within_eq_ok (Nat.zero_le limit) a

@[simp]
theorem within_zero_one_add (depth : Nat) (a : α) : within 0 (1 + depth) a = .error .tooDeep :=
  if_neg (by omega)

theorem within_succ (f : α → β) (limit depth : Nat) (a : α) :
    (within limit depth a).map f = within (limit + 1) (1 + depth) (f a) := by
  unfold within
  by_cases h : depth ≤ limit
  · rw [if_pos h, if_pos (by omega)]
    rfl
  · rw [if_neg h, if_neg (by omega)]
    rfl

theorem within_max (f : α → β → γ) (limit d e : Nat) (a : α) (b : β) :
    (do
      let x ← within limit d a
      let y ← within limit e b
      .ok (f x y)) = within limit (max d e) (f a b) := by
  simp only [within, Nat.max_le]
  by_cases hd : d ≤ limit <;> by_cases he : e ≤ limit <;> simp only [hd, he, if_true, if_false, and_true, and_false] <;>
    rfl

/-! ## Complete values -/

mutual

/-- No number in the value is too large for a double. -/
def Value.Finite : Value → Prop
  | .number n => n.float?.isSome = true
  | .array items => FiniteItems items
  | .object members => FiniteMembers members
  | _ => True

/-- No number in the items is too large. -/
def FiniteItems : List Value → Prop
  | [] => True
  | v :: rest => v.Finite ∧ FiniteItems rest

/-- No number in the members is too large. -/
def FiniteMembers : List (String × Value) → Prop
  | [] => True
  | (_, v) :: rest => v.Finite ∧ FiniteMembers rest

end

mutual

/-- The document of a value is read back as the value, to the limit of nesting. -/
theorem Value.value_document (limit : Nat) : ∀ v : Value, v.Finite → v.document.value limit = within limit v.depth v
  | .null, _ => by simp [Value.document, Document.value, Value.depth]
  | .bool _, _ => by simp [Value.document, Document.value, Value.depth]
  | .number n, h => by
    have hn : n.float?.isSome = true := by simpa [Value.Finite] using h
    simp [Value.document, Document.value, Value.depth, hn]
  | .string _, _ => by simp [Value.document, Document.value, Value.depth, Except.map]
  | .array items, h => by
    have h : FiniteItems items := by simpa [Value.Finite] using h
    cases limit with
    | zero => simp [Value.document, Document.value, Value.depth]
    | succ limit =>
      rw [Value.document, Document.value, values_documentOfItems limit items h, within_succ, Value.depth]
  | .object members, h => by
    have h : FiniteMembers members := by simpa [Value.Finite] using h
    cases limit with
    | zero => simp [Value.document, Document.value, Value.depth]
    | succ limit =>
      rw [Value.document, Document.value, values_documentOfMembers limit members h, within_succ, Value.depth]

theorem values_documentOfItems (limit : Nat) : ∀ vs : List Value, FiniteItems vs →
    (documentOfItems vs).values limit = within limit (depthOfItems vs) vs
  | [], _ => by simp [documentOfItems, Items.values, depthOfItems]
  | v :: vs, h => by
    have h : v.Finite ∧ FiniteItems vs := by simpa [FiniteItems] using h
    rw [documentOfItems, Items.values, v.value_document limit h.1, values_documentOfItems limit vs h.2, depthOfItems,
      within_max]

theorem values_documentOfMembers (limit : Nat) : ∀ ms : List (String × Value), FiniteMembers ms →
    (documentOfMembers ms).values limit = within limit (depthOfMembers ms) ms
  | [], _ => by simp [documentOfMembers, Members.values, depthOfMembers]
  | (name, v) :: ms, h => by
    have h : v.Finite ∧ FiniteMembers ms := by simpa [FiniteMembers] using h
    rw [documentOfMembers, Members.values, v.value_document limit h.1, values_documentOfMembers limit ms h.2,
      depthOfMembers, ← within_max (fun first others => (name, first) :: others)]
    rfl

end

/-! ## The depth of what was read -/

theorem exists_of_map_eq_ok {f : α → β} {r : Except Fault α} {b : β} (h : r.map f = .ok b) : ∃ a, r = .ok a ∧ f a = b := by
  cases r with
  | error _ => cases h
  | ok a =>
    cases h
    exact ⟨a, rfl, rfl⟩

/-- A text that ends with its document is decoded as the document. -/
theorem decode_eq_of_ofText {decoder : Decoder α} {text : String} {d : Document}
    (h : Document.ofText text = (d, false)) : decode decoder text = decoder depthLimit d := by
  cases hd : decoder depthLimit d <;> simp [decode, h, hd, bind, Except.bind]

/-- What is decoded from a text is decoded from its document. -/
theorem decoded_of_decode {decoder : Decoder α} {text : String} {a : α} (h : decode decoder text = .ok a) :
    decoder depthLimit (Document.ofText text).1 = .ok a := by
  obtain ⟨b, hb, h⟩ := exists_of_bind_eq_ok (show (decoder depthLimit (Document.ofText text).1 >>= fun b =>
    if (Document.ofText text).2 then Except.error Fault.trailingCharacters else .ok b) = .ok a from h)
  by_cases hg : (Document.ofText text).2 = true
  · rw [if_pos hg] at h
    cases h
  · rw [if_neg hg] at h
    cases h
    exact hb

mutual

/-- What was read nests no deeper than the limit. -/
theorem Document.depth_le : ∀ (d : Document) {limit : Nat} {v : Value}, d.value limit = .ok v → v.depth ≤ limit
  | .null, limit, v, h => by
    rw [Document.value] at h
    cases h
    exact Nat.zero_le limit
  | .bool _, limit, v, h => by
    rw [Document.value] at h
    cases h
    exact Nat.zero_le limit
  | .number _, limit, v, h => by
    rw [Document.value] at h
    split at h <;> cases h
    exact Nat.zero_le limit
  | .string _, limit, v, h => by
    rw [Document.value] at h
    obtain ⟨s, -, rfl⟩ := exists_of_map_eq_ok h
    exact Nat.zero_le limit
  | .array items, 0, v, h => by
    rw [Document.value] at h
    cases h
  | .array items, limit + 1, v, h => by
    rw [Document.value] at h
    obtain ⟨vs, hvs, rfl⟩ := exists_of_map_eq_ok h
    have := items.depth_le hvs
    rw [Value.depth]
    omega
  | .object members, 0, v, h => by
    rw [Document.value] at h
    cases h
  | .object members, limit + 1, v, h => by
    rw [Document.value] at h
    obtain ⟨ms, hms, rfl⟩ := exists_of_map_eq_ok h
    have := members.depth_le hms
    rw [Value.depth]
    omega
  | .broken _, limit, v, h => by
    rw [Document.value] at h
    cases h

theorem Items.depth_le : ∀ (items : Items) {limit : Nat} {vs : List Value}, items.values limit = .ok vs →
    depthOfItems vs ≤ limit
  | .closed, limit, vs, h => by
    rw [Items.values] at h
    cases h
    exact Nat.zero_le limit
  | .broken _, limit, vs, h => by
    rw [Items.values] at h
    cases h
  | .cons item rest, limit, vs, h => by
    rw [Items.values] at h
    obtain ⟨first, hfirst, h⟩ := exists_of_bind_eq_ok h
    obtain ⟨others, hothers, h⟩ := exists_of_bind_eq_ok h
    cases h
    rw [depthOfItems]
    exact Nat.max_le.2 ⟨item.depth_le hfirst, rest.depth_le hothers⟩

theorem Members.depth_le : ∀ (members : Members) {limit : Nat} {ms : List (String × Value)},
    members.values limit = .ok ms → depthOfMembers ms ≤ limit
  | .closed, limit, ms, h => by
    rw [Members.values] at h
    cases h
    exact Nat.zero_le limit
  | .broken _, limit, ms, h => by
    rw [Members.values] at h
    cases h
  | .cons _ value rest, limit, ms, h => by
    rw [Members.values] at h
    obtain ⟨name, -, h⟩ := exists_of_bind_eq_ok h
    obtain ⟨first, hfirst, h⟩ := exists_of_bind_eq_ok h
    obtain ⟨others, hothers, h⟩ := exists_of_bind_eq_ok h
    cases h
    rw [depthOfMembers]
    exact Nat.max_le.2 ⟨value.depth_le hfirst, rest.depth_le hothers⟩

end

end CourseCatalog.Json
