import CourseCatalog.Proofs.Json.Parts
import Mathlib.Data.List.Pairwise
/-!
# Reading records

The members of an object fill a draft one after the other. When the fields of a record do
not get in each other's way, the order of the members does not matter, nor which of its
names a field goes by, nor what else is in the object; and an array with the values in the
order of the fields says the same.
-/

namespace CourseCatalog.Json

variable {σ α : Type}

/-! ## Fields -/

theorem Field.named_name (f : Field σ) : f.named f.name = true := by
  simp [Field.named]

theorem Field.named_iff (f : Field σ) (name : String) : f.named name = true ↔ name ∈ f.name :: f.aliases := by
  simp [Field.named]

/-- Filling one field spares another. -/
structure Field.Spares (f g : Field σ) : Prop where
  named : ∀ {name : String}, f.named name = true → g.named name = false
  filled : ∀ {depth : Nat} {d : Document} {x y : σ}, f.fill depth d x = .ok y → g.filled y = g.filled x
  fill : ∀ {depth : Nat} {d e : Document} {x y z : σ}, f.fill depth d x = .ok y → g.fill depth e y = .ok z →
    ∃ w, g.fill depth e x = .ok w ∧ f.fill depth d w = .ok z

/-- A field is filled with what a decoder gives. -/
def Field.Takes (f : Field σ) (decoder : Decoder α) : Prop :=
  ∃ put : α → σ → σ, ∀ (depth : Nat) (d : Document) (x : σ), f.fill depth d x = (decoder depth d).map (put · x)

theorem Field.takes_of {name : String} {decoder : Decoder α} {get : σ → Option α} {put : α → σ → σ}
    {aliases : List String} {optional : Bool} :
    (Field.of name decoder get put aliases optional).Takes decoder :=
  ⟨put, fun _ _ _ => rfl⟩

section Takes
variable {f : Field σ} {decoder : Decoder α} {depth : Nat} {d d' : Document}

theorem Field.Takes.exists_of_fill (h : f.Takes decoder) {x x' : σ} (hx : f.fill depth d x = .ok x') :
    ∃ a, decoder depth d = .ok a := by
  obtain ⟨put, hput⟩ := h
  rw [hput] at hx
  exact (exists_of_map_eq_ok hx).imp fun _ h => h.1

/-- What is decoded to the same fills alike. -/
theorem Field.Takes.fill_replace (h : f.Takes decoder) (hd : ∀ a, decoder depth d = .ok a → decoder depth d' = .ok a)
    {x x' : σ} (hx : f.fill depth d x = .ok x') : f.fill depth d' x = .ok x' := by
  obtain ⟨put, hput⟩ := h
  rw [hput] at hx ⊢
  obtain ⟨a, ha, rfl⟩ := exists_of_map_eq_ok hx
  rw [hd a ha]
  rfl

end Takes

/-- Fields spare each other when they have different names and different parts of the draft. -/
theorem Field.spares_of {β : Type} {name name' : String} {decoder : Decoder α} {decoder' : Decoder β}
    {get : σ → Option α} {get' : σ → Option β} {put : α → σ → σ} {put' : β → σ → σ} {aliases aliases' : List String}
    {optional optional' : Bool} (hn : ∀ n ∈ name :: aliases, n ∉ name' :: aliases')
    (hg : ∀ a x, get' (put a x) = get' x) (hp : ∀ a b x, put' b (put a x) = put a (put' b x)) :
    (Field.of name decoder get put aliases optional).Spares (Field.of name' decoder' get' put' aliases' optional') where
  named := by
    intro n h
    rw [Field.named_iff] at h
    rw [← Bool.not_eq_true, Field.named_iff]
    exact hn n h
  filled := by
    intro depth d x y h
    obtain ⟨a, -, rfl⟩ := exists_of_map_eq_ok h
    exact congrArg Option.isSome (hg a x)
  fill := by
    intro depth d e x y z hy hz
    obtain ⟨a, ha, rfl⟩ := exists_of_map_eq_ok hy
    obtain ⟨b, hb, rfl⟩ := exists_of_map_eq_ok hz
    refine ⟨put' b x, ?_, ?_⟩
    · simp only [Field.of, hb, Except.map]
    · simp only [Field.of, ha, Except.map, hp]

/-- Two fields spare each other. -/
structure Field.Apart (f g : Field σ) : Prop where
  spares : f.Spares g
  spared : g.Spares f

instance : Std.Symm (@Field.Apart σ) :=
  ⟨fun _ _ h => ⟨h.spared, h.spares⟩⟩

theorem Field.apart_of {β : Type} {name name' : String} {decoder : Decoder α} {decoder' : Decoder β}
    {get : σ → Option α} {get' : σ → Option β} {put : α → σ → σ} {put' : β → σ → σ} {aliases aliases' : List String}
    {optional optional' : Bool} (hn : ∀ n ∈ name :: aliases, n ∉ name' :: aliases') (hg : ∀ a x, get' (put a x) = get' x)
    (hg' : ∀ b x, get (put' b x) = get x) (hp : ∀ a b x, put' b (put a x) = put a (put' b x)) :
    (Field.of name decoder get put aliases optional).Apart (Field.of name' decoder' get' put' aliases' optional') :=
  ⟨Field.spares_of hn hg hp, Field.spares_of (fun n h h' => hn n h' h) hg' fun b a x => (hp a b x).symm⟩

theorem Field.filled_of {name : String} {decoder : Decoder α} {get : σ → Option α} {put : α → σ → σ}
    {aliases : List String} {optional : Bool} (h : ∀ a x, (get (put a x)).isSome = true) {depth : Nat} {d : Document}
    {x y : σ} (hy : (Field.of name decoder get put aliases optional).fill depth d x = .ok y) :
    (Field.of name decoder get put aliases optional).filled y = true := by
  obtain ⟨a, -, rfl⟩ := exists_of_map_eq_ok hy
  exact h a x

/-- Fields that are apart from one another, and filled when they have been filled. -/
structure Separate (fields : List (Field σ)) : Prop where
  apart : fields.Pairwise Field.Apart
  filled : ∀ f ∈ fields, ∀ {depth : Nat} {d : Document} {x y : σ}, f.fill depth d x = .ok y → f.filled y = true

/-- A record whose fields can be read in any order, with none of them read at first and all that are
not optional needed at last. -/
structure RecordType.Orderly (type : RecordType σ α) : Prop where
  separate : Separate type.fields
  blank : ∀ f ∈ type.fields, f.filled type.blank = false
  needed : ∀ f ∈ type.fields, f.optional = false → ∀ {y : σ} {a : α}, type.finish y = .ok a → f.filled y = true

theorem exists_of_required {name : String} {field : Option α} {a : α} (h : required name field = .ok a) :
    field = some a := by
  cases field with
  | none => cases h
  | some b =>
    cases h
    rfl

theorem Separate.spares {fields : List (Field σ)} (h : Separate fields) {f g : Field σ} (hf : f ∈ fields)
    (hg : g ∈ fields) (hne : f ≠ g) : f.Spares g :=
  (List.Pairwise.forall h.apart hf hg hne).spares

theorem Separate.eq_of_named {fields : List (Field σ)} (h : Separate fields) {f g : Field σ} (hf : f ∈ fields)
    (hg : g ∈ fields) {name : String} (hfn : f.named name = true) (hgn : g.named name = true) : f = g := by
  by_contra hne
  exact absurd hgn (by simp [(h.spares hf hg hne).named hfn])

/-- After a field has been filled, it is one of those that are done. -/
theorem Separate.done_fill {all done fields : List (Field σ)} {f : Field σ} (h : Separate all)
    (hall : all = done ++ f :: fields) {depth : Nat} {d : Document} {x y : σ} (hdone : ∀ g ∈ done, g.filled x = true)
    (hy : f.fill depth d x = .ok y) : ∀ g ∈ done ++ [f], g.filled y = true := by
  have hp := (List.pairwise_append.1 (hall ▸ h.apart)).2.2
  intro g hg
  rcases List.mem_append.1 hg with hg | hg
  · rw [(hp g hg f List.mem_cons_self).spared.filled hy, hdone g hg]
  · obtain rfl := List.mem_singleton.1 hg
    exact h.filled g (by simp [hall]) hy

/-- After a field has been filled, those that follow are as they were. -/
theorem Separate.rest_fill {all done fields : List (Field σ)} {f : Field σ} (h : Separate all)
    (hall : all = done ++ f :: fields) {depth : Nat} {d : Document} {x y : σ} (hrest : ∀ g ∈ f :: fields, g.filled x = false)
    (hy : f.fill depth d x = .ok y) : ∀ g ∈ fields, g.filled y = false := by
  have hp := List.pairwise_cons.1 (List.pairwise_append.1 (hall ▸ h.apart)).2.1
  intro g hg
  rw [(hp.1 g hg).spares.filled hy, hrest g (List.mem_cons_of_mem _ hg)]

/-- None of the members goes by a name of the field. -/
def Field.Absent (f : Field σ) (ms : List (Spelling × Document)) : Prop :=
  ∀ (name : String) (d : Document), (.ok name, d) ∈ ms → f.named name = false

/-! ## Filling a draft from members -/

/-- The draft that members make of a draft. Members that no field goes by are passed over. -/
inductive Filling (fields : List (Field σ)) (depth : Nat) : List (Spelling × Document) → σ → σ → Prop
  | nil {x : σ} : Filling fields depth [] x x
  | unknown {name : String} {d : Document} {ms : List (Spelling × Document)} {x y : σ}
    (hn : ∀ f ∈ fields, f.named name = false) (hd : d.passFault? = none) (h : Filling fields depth ms x y) :
    Filling fields depth ((.ok name, d) :: ms) x y
  | field {f : Field σ} {name : String} {d : Document} {ms : List (Spelling × Document)} {x x' y : σ}
    (hf : f ∈ fields) (hn : f.named name = true) (hx : f.filled x = false) (hd : f.fill depth d x = .ok x')
    (h : Filling fields depth ms x' y) : Filling fields depth ((.ok name, d) :: ms) x y

section Filling
variable {fields : List (Field σ)} {depth : Nat} {ms ms' : List (Spelling × Document)} {x y : σ}

theorem filling_of_fillMembers (h : fillMembers fields depth (.ofList ms) x = .ok y) : Filling fields depth ms x y := by
  induction ms generalizing x with
  | nil =>
    cases h
    exact .nil
  | cons m ms ih =>
    obtain ⟨spelling, d⟩ := m
    rw [Members.ofList, fillMembers] at h
    obtain ⟨name, rfl, hm⟩ := exists_of_bind_eq_ok h
    clear h
    cases hf : fields.find? (·.named name) with
    | none =>
      rw [hf] at hm
      obtain ⟨_, hd, hm⟩ := exists_of_bind_eq_ok hm
      refine .unknown (fun f hf' => ?_) (Document.pass_eq_ok.1 hd) (ih hm)
      simpa using List.find?_eq_none.1 hf f hf'
    | some f =>
      rw [hf] at hm
      have hn : f.named name = true := by simpa using List.find?_some hf
      cases hx : f.filled x with
      | true =>
        simp only [hx, if_true] at hm
        cases hm
      | false =>
        simp only [hx, Bool.false_eq_true, if_false] at hm
        obtain ⟨x', hd, hm⟩ := exists_of_bind_eq_ok hm
        exact .field (List.mem_of_find?_eq_some hf) hn hx hd (ih hm)

theorem fillMembers_of_filling (hs : Separate fields) (h : Filling fields depth ms x y) :
    fillMembers fields depth (.ofList ms) x = .ok y := by
  induction h with
  | nil => rfl
  | @unknown name d ms x y hn hd _ ih =>
    have hf : fields.find? (·.named name) = none := List.find?_eq_none.2 fun f hm => by simp [hn f hm]
    rw [Members.ofList, fillMembers]
    simp only [bind, Except.bind, hf, Document.pass_eq_ok.2 hd, ih]
  | @field f name d ms x x' y hf hn hx hd _ ih =>
    have hfind : fields.find? (·.named name) = some f := by
      cases hg : fields.find? (·.named name) with
      | none => exact absurd hn (List.find?_eq_none.1 hg f hf)
      | some g =>
        have hgn : g.named name = true := by simpa using List.find?_some hg
        rw [hs.eq_of_named hf (List.mem_of_find?_eq_some hg) hn hgn]
    rw [Members.ofList, fillMembers]
    simp only [bind, Except.bind, hfind, hx, hd, ih, Bool.false_eq_true, if_false]

/-- The members can come in any order. -/
theorem Filling.perm (hs : Separate fields) (h : Filling fields depth ms x y) (hp : ms.Perm ms') :
    Filling fields depth ms' x y := by
  induction hp generalizing x y with
  | nil => exact h
  | cons m _ ih =>
    cases h with
    | unknown hn hd h => exact .unknown hn hd (ih h)
    | field hf hn hx hd h => exact .field hf hn hx hd (ih h)
  | swap m m' ms =>
    cases h with
    | unknown hn hd h =>
      cases h with
      | unknown hn' hd' h => exact .unknown hn' hd' (.unknown hn hd h)
      | field hf hn' hx hd' h => exact .field hf hn' hx hd' (.unknown hn hd h)
    | @field f _ _ _ _ x' _ hf hn hx hd h =>
      cases h with
      | unknown hn' hd' h => exact .unknown hn' hd' (.field hf hn hx hd h)
      | @field g _ _ _ _ y' _ hg hn' hx' hd' h =>
        -- The second member does not fill the field again, so it is another field and can go first.
        have hne : f ≠ g := by
          rintro rfl
          simp [hs.filled f hf hd] at hx'
        have hfg := hs.spares hf hg hne
        obtain ⟨w, hw, hy'⟩ := hfg.fill hd hd'
        have hxg : g.filled x = false := by rw [← hfg.filled hd, hx']
        have hwf : f.filled w = false := by rw [(hs.spares hg hf hne.symm).filled hw, hx]
        exact .field hg hn' hxg hw (.field hf hn hwf hy' h)
  | trans _ _ ih ih' => exact ih' (ih h)

/-- Any member can be looked at first. -/
theorem Filling.middle (hs : Separate fields) {before after : List (Spelling × Document)} {m : Spelling × Document} :
    Filling fields depth (before ++ m :: after) x y ↔ Filling fields depth (m :: (before ++ after)) x y :=
  ⟨fun h => h.perm hs List.perm_middle, fun h => h.perm hs List.perm_middle.symm⟩

/-- The member that a field goes by fills the field. -/
theorem Filling.of_named (hs : Separate fields) {f : Field σ} (hf : f ∈ fields) {name : String}
    (hn : f.named name = true) {d : Document} (h : Filling fields depth ((.ok name, d) :: ms) x y) :
    f.filled x = false ∧ ∃ x', f.fill depth d x = .ok x' ∧ Filling fields depth ms x' y := by
  cases h with
  | unknown hn' => simp [hn' f hf] at hn
  | field hg hn' hx hd h =>
    cases hs.eq_of_named hf hg hn hn'
    exact ⟨hx, _, hd, h⟩

/-- A field without a member stays as it is. -/
theorem Filling.filled_of_absent (hs : Separate fields) {f : Field σ} (hf : f ∈ fields)
    (h : Filling fields depth ms x y) (ha : f.Absent ms) : f.filled y = f.filled x := by
  induction h with
  | nil => rfl
  | unknown _ _ _ ih => exact ih fun n d hm => ha n d (List.mem_cons_of_mem _ hm)
  | @field g name d ms x x' y hg hn hx hd _ ih =>
    have hne : g ≠ f := by
      rintro rfl
      simp [ha name d List.mem_cons_self] at hn
    rw [ih fun n d hm => ha n d (List.mem_cons_of_mem _ hm), (hs.spares hg hf hne).filled hd]

/-- A field is not filled twice. -/
theorem Filling.absent_of_filled (hs : Separate fields) {f : Field σ} (hf : f ∈ fields)
    (h : Filling fields depth ms x y) (hx : f.filled x = true) : f.Absent ms := by
  intro name d hm
  obtain ⟨before, after, rfl⟩ := List.append_of_mem hm
  rw [← Bool.not_eq_true]
  intro hn
  have := (((Filling.middle hs).1 h).of_named hs hf hn).1
  simp [this] at hx

/-- Members that no field goes by change nothing. -/
theorem Filling.eq_of_absent (h : Filling fields depth ms x y) (ha : ∀ f ∈ fields, f.Absent ms) : y = x := by
  induction h with
  | nil => rfl
  | unknown _ _ _ ih => exact ih fun f hf n d hm => ha f hf n d (List.mem_cons_of_mem _ hm)
  | @field f name d ms x x' y hf hn hx hd _ ih => simp [ha f hf name d List.mem_cons_self] at hn

end Filling

/-! ## Records from objects -/

section Objects
variable {type : RecordType σ α} {depth : Nat} {ms ms' before after : List (Spelling × Document)} {a : α}

theorem decodeRecord_object (hs : Separate type.fields) :
    decodeRecord type (depth + 1) (.object (.ofList ms)) = .ok a ↔
      ∃ y, Filling type.fields depth ms type.blank y ∧ type.finish y = .ok a := by
  rw [decodeRecord]
  constructor
  · intro h
    obtain ⟨y, hy, ha⟩ := exists_of_bind_eq_ok h
    exact ⟨y, filling_of_fillMembers hy, ha⟩
  · rintro ⟨y, hy, ha⟩
    rw [fillMembers_of_filling hs hy]
    exact ha

/-- The order of the members does not matter. -/
theorem decodeRecord_perm (hs : Separate type.fields)
    (h : decodeRecord type (depth + 1) (.object (.ofList ms)) = .ok a) (hp : ms.Perm ms') :
    decodeRecord type (depth + 1) (.object (.ofList ms')) = .ok a := by
  obtain ⟨y, hy, ha⟩ := (decodeRecord_object hs).1 h
  exact (decodeRecord_object hs).2 ⟨y, hy.perm hs hp, ha⟩

/-- A member is replaced by one that fills what the other did. -/
theorem decodeRecord_replace (hs : Separate type.fields) {m m' : Spelling × Document}
    (h : decodeRecord type (depth + 1) (.object (.ofList (before ++ m :: after))) = .ok a)
    (hm : ∀ x y, Filling type.fields depth (m :: (before ++ after)) x y →
      Filling type.fields depth (m' :: (before ++ after)) x y) :
    decodeRecord type (depth + 1) (.object (.ofList (before ++ m' :: after))) = .ok a := by
  obtain ⟨y, hy, ha⟩ := (decodeRecord_object hs).1 h
  exact (decodeRecord_object hs).2 ⟨y, (Filling.middle hs).2 (hm _ y ((Filling.middle hs).1 hy)), ha⟩

/-- A field goes by any of its names. -/
theorem decodeRecord_renamed (hs : Separate type.fields) {f : Field σ} (hf : f ∈ type.fields) {name name' : String}
    (hn : f.named name = true) (hn' : f.named name' = true) {d : Document}
    (h : decodeRecord type (depth + 1) (.object (.ofList (before ++ (.ok name, d) :: after))) = .ok a) :
    decodeRecord type (depth + 1) (.object (.ofList (before ++ (.ok name', d) :: after))) = .ok a := by
  refine decodeRecord_replace hs h fun x y hy => ?_
  obtain ⟨hx, x', hd, hy⟩ := hy.of_named hs hf hn
  exact .field hf hn' hx hd hy

/-- What a field is filled with gives way to what fills it alike. -/
theorem decodeRecord_filled (hs : Separate type.fields) {f : Field σ} (hf : f ∈ type.fields) {name : String}
    (hn : f.named name = true) {d d' : Document}
    (hd : ∀ x x', f.fill depth d x = .ok x' → f.fill depth d' x = .ok x')
    (h : decodeRecord type (depth + 1) (.object (.ofList (before ++ (.ok name, d) :: after))) = .ok a) :
    decodeRecord type (depth + 1) (.object (.ofList (before ++ (.ok name, d') :: after))) = .ok a := by
  refine decodeRecord_replace hs h fun x y hy => ?_
  obtain ⟨hx, x', hfill, hy⟩ := hy.of_named hs hf hn
  exact .field hf hn hx (hd x x' hfill) hy

/-- Each field that has a member was filled from it. -/
theorem exists_fill_of_decodeRecord (hs : Separate type.fields) {f : Field σ} (hf : f ∈ type.fields) {name : String}
    (hn : f.named name = true) {d : Document}
    (h : decodeRecord type (depth + 1) (.object (.ofList (before ++ (.ok name, d) :: after))) = .ok a) :
    ∃ x x', f.fill depth d x = .ok x' := by
  obtain ⟨y, hy, -⟩ := (decodeRecord_object hs).1 h
  obtain ⟨-, x', hx', -⟩ := ((Filling.middle hs).1 hy).of_named hs hf hn
  exact ⟨type.blank, x', hx'⟩

/-- A member that no field goes by may be there as well. -/
theorem decodeRecord_added (hs : Separate type.fields) {name : String}
    (hn : ∀ f ∈ type.fields, f.named name = false) {d : Document} (hd : d.passFault? = none)
    (h : decodeRecord type (depth + 1) (.object (.ofList (before ++ after))) = .ok a) :
    decodeRecord type (depth + 1) (.object (.ofList (before ++ (.ok name, d) :: after))) = .ok a := by
  obtain ⟨y, hy, ha⟩ := (decodeRecord_object hs).1 h
  exact (decodeRecord_object hs).2 ⟨y, (Filling.middle hs).2 (.unknown hn hd hy), ha⟩

/-- What no field goes by can be any other thing that can be passed over. -/
theorem decodeRecord_passed (hs : Separate type.fields) {name : String}
    (hn : ∀ f ∈ type.fields, f.named name = false) {d d' : Document} (hd : d.passFault? = none → d'.passFault? = none)
    (h : decodeRecord type (depth + 1) (.object (.ofList (before ++ (.ok name, d) :: after))) = .ok a) :
    decodeRecord type (depth + 1) (.object (.ofList (before ++ (.ok name, d') :: after))) = .ok a := by
  refine decodeRecord_replace hs h fun x y hy => ?_
  cases hy with
  | unknown _ hpass hy => exact .unknown hn (hd hpass) hy
  | field hf hn' => simp [hn _ hf] at hn'

/-- A record is not read without a field that it needs. -/
theorem decodeRecord_omitted (ht : type.Orderly) {f : Field σ} (hf : f ∈ type.fields) (ho : f.optional = false)
    {name : String} (hn : f.named name = true) {d : Document}
    (h : decodeRecord type (depth + 1) (.object (.ofList (before ++ (.ok name, d) :: after))) = .ok a) (b : α) :
    decodeRecord type (depth + 1) (.object (.ofList (before ++ after))) ≠ .ok b := by
  intro hb
  have hs := ht.separate
  obtain ⟨y, hy, -⟩ := (decodeRecord_object hs).1 h
  obtain ⟨-, x', hx', hy⟩ := ((Filling.middle hs).1 hy).of_named hs hf hn
  have ha : f.Absent (before ++ after) := hy.absent_of_filled hs hf (hs.filled f hf hx')
  obtain ⟨z, hz, hfinish⟩ := (decodeRecord_object hs).1 hb
  have hfilled : f.filled z = true := ht.needed f hf ho hfinish
  rw [hz.filled_of_absent hs hf ha, ht.blank f hf] at hfilled
  cases hfilled

end Objects

/-! ## Records from arrays -/

section Arrays
variable {record : String} {count depth : Nat} {fs gs : List (Field σ)} {f : Field σ} {before after ds : List Document}
  {d d' : Document} {x y : σ}

/-- Each item of an array fills the field at its place. -/
theorem exists_fill_of_fillItems (hl : before.length = fs.length)
    (h : fillItems record count depth (fs ++ f :: gs) (.ofList (before ++ d :: after)) x = .ok y) :
    ∃ x x', f.fill depth d x = .ok x' := by
  induction before generalizing fs x with
  | nil =>
    obtain rfl := List.length_eq_zero_iff.1 hl.symm
    obtain ⟨x', hx', -⟩ := exists_of_bind_eq_ok h
    exact ⟨x, x', hx'⟩
  | cons e before ih =>
    obtain ⟨g, fs, rfl⟩ := List.exists_cons_of_length_eq_add_one hl.symm
    obtain ⟨x', -, h⟩ := exists_of_bind_eq_ok h
    exact ih (by simpa using hl) h

/-- An item gives way to one that fills its field alike. -/
theorem fillItems_filled (hl : before.length = fs.length)
    (hd : ∀ x x', f.fill depth d x = .ok x' → f.fill depth d' x = .ok x')
    (h : fillItems record count depth (fs ++ f :: gs) (.ofList (before ++ d :: after)) x = .ok y) :
    fillItems record count depth (fs ++ f :: gs) (.ofList (before ++ d' :: after)) x = .ok y := by
  induction before generalizing fs x with
  | nil =>
    obtain rfl := List.length_eq_zero_iff.1 hl.symm
    obtain ⟨x', hx', h⟩ := exists_of_bind_eq_ok h
    exact (congrArg (· >>= _) (hd x x' hx')).trans h
  | cons e before ih =>
    obtain ⟨g, fs, rfl⟩ := List.exists_cons_of_length_eq_add_one hl.symm
    obtain ⟨x', hx', h⟩ := exists_of_bind_eq_ok h
    exact (congrArg (· >>= _) hx').trans (ih (by simpa using hl) h)

variable {type : RecordType σ α} {a : α}

theorem exists_fill_of_decodeRecord_array (hf : type.fields = fs ++ f :: gs) (hl : before.length = fs.length)
    (h : decodeRecord type (depth + 1) (.array (.ofList (before ++ d :: after))) = .ok a) :
    ∃ x x', f.fill depth d x = .ok x' := by
  obtain ⟨y, hy, -⟩ := exists_of_bind_eq_ok h
  rw [hf] at hy
  exact exists_fill_of_fillItems hl hy

theorem decodeRecord_array_filled (hf : type.fields = fs ++ f :: gs) (hl : before.length = fs.length)
    (hd : ∀ x x', f.fill depth d x = .ok x' → f.fill depth d' x = .ok x')
    (h : decodeRecord type (depth + 1) (.array (.ofList (before ++ d :: after))) = .ok a) :
    decodeRecord type (depth + 1) (.array (.ofList (before ++ d' :: after))) = .ok a := by
  rw [decodeRecord, hf] at h ⊢
  obtain ⟨y, hy, ha⟩ := exists_of_bind_eq_ok h
  exact (congrArg (· >>= _) (fillItems_filled hl hd hy)).trans ha

end Arrays

/-! ## Objects written as arrays -/

/-- The values of members in the order of the fields. An optional field without a member has its
default, or is left off with all that follow. -/
inductive Listed (default : String → Document) :
    List (Field σ) → List (Spelling × Document) → List Document → Prop
  | off {fields : List (Field σ)} {ms : List (Spelling × Document)}
    (h : ∀ f ∈ fields, f.optional = true ∧ f.Absent ms) : Listed default fields ms []
  | present {f : Field σ} {fields : List (Field σ)} {before after : List (Spelling × Document)} {name : String}
    {d : Document} {ds : List Document} (hn : f.named name = true) (h : Listed default fields (before ++ after) ds) :
    Listed default (f :: fields) (before ++ (.ok name, d) :: after) (d :: ds)
  | absent {f : Field σ} {fields : List (Field σ)} {ms : List (Spelling × Document)} {ds : List Document}
    (ho : f.optional = true) (ha : f.Absent ms) (h : Listed default fields ms ds) :
    Listed default (f :: fields) ms (default f.name :: ds)

/-- A field that must be there is there, and its value is the next item. -/
theorem Listed.of_needed {default : String → Document} {f : Field σ} {fields : List (Field σ)}
    {ms : List (Spelling × Document)} {ds : List Document} (h : Listed default (f :: fields) ms ds)
    (hf : f.optional = false) :
    ∃ before name d after rest, ms = before ++ (.ok name, d) :: after ∧ f.named name = true ∧
      Listed default fields (before ++ after) rest ∧ ds = d :: rest := by
  cases h with
  | off h => simp [(h f List.mem_cons_self).1] at hf
  | present hn h => exact ⟨_, _, _, _, _, rfl, hn, h, rfl⟩
  | absent ho => simp [ho] at hf

theorem Listed.of_nil {default : String → Document} {ms : List (Spelling × Document)} {ds : List Document}
    (h : Listed default ([] : List (Field σ)) ms ds) : ds = [] := by
  cases h
  rfl

section Listed
variable {default : String → Document} {type : RecordType σ α} {record : String} {count depth : Nat}

theorem fillItems_closed {fields : List (Field σ)} (h : ∀ f ∈ fields, f.optional = true) (x : σ) :
    fillItems record count depth fields .closed x = .ok x := by
  induction fields with
  | nil => rfl
  | cons f fields ih =>
    rw [fillItems, if_pos (h f List.mem_cons_self)]
    exact ih fun g hg => h g (List.mem_cons_of_mem _ hg)

theorem Filling.snoc {fields : List (Field σ)} {ms : List (Spelling × Document)} {x y z : σ} {f : Field σ} {d : Document}
    (h : Filling fields depth ms x y) (hf : f ∈ fields) (hy : f.filled y = false) (hd : f.fill depth d y = .ok z) :
    Filling fields depth (ms ++ [(.ok f.name, d)]) x z := by
  induction h with
  | nil => exact .field hf f.named_name hy hd .nil
  | unknown hn hp _ ih => exact .unknown hn hp (ih hy hd)
  | field hg hn hx hp _ ih => exact .field hg hn hx hp (ih hy hd)

/-- Filling the defaults of fields that are not there does not change the record. -/
def RecordType.Defaults (type : RecordType σ α) (default : String → Document) (depth : Nat) : Prop :=
  ∀ f ∈ type.fields, f.optional = true → ∀ x, f.filled x = false →
    ∃ y, f.fill depth (default f.name) x = .ok y ∧ type.finish y = type.finish x

/-- The items of the array fill the fields as the members of the object do. The induction is on the
fields; those that are `done` have their values already. -/
theorem Listed.fill (hs : Separate type.fields) (hdefault : type.Defaults default depth) {done fields : List (Field σ)}
    {ms : List (Spelling × Document)} {ds : List Document} (h : Listed default fields ms ds)
    (hfields : type.fields = done ++ fields) {x y : σ} (hdone : ∀ f ∈ done, f.filled x = true)
    (hrest : ∀ f ∈ fields, f.filled x = false) (hy : Filling type.fields depth ms x y) :
    ∃ z, fillItems record count depth fields (.ofList ds) x = .ok z ∧ type.finish z = type.finish y := by
  induction h generalizing done x y with
  | @off fields ms h =>
    have ha : ∀ f ∈ type.fields, f.Absent ms := by
      intro f hf
      rcases List.mem_append.1 (hfields ▸ hf) with hd | hr
      · exact hy.absent_of_filled hs hf (hdone f hd)
      · exact (h f hr).2
    exact ⟨x, fillItems_closed (fun f hf => (h f hf).1) x, by rw [hy.eq_of_absent ha]⟩
  | @present f fields before after name d ds hn h ih =>
    have hf : f ∈ type.fields := by simp [hfields]
    obtain ⟨hx, x', hx', hy⟩ := ((Filling.middle hs).1 hy).of_named hs hf hn
    obtain ⟨z, hz, hzy⟩ := ih (by simpa using hfields) (hs.done_fill hfields hdone hx') (hs.rest_fill hfields hrest hx') hy
    exact ⟨z, (congrArg (· >>= _) hx').trans hz, hzy⟩
  | @absent f fields ms ds ho ha h ih =>
    have hf : f ∈ type.fields := by simp [hfields]
    have hyf : f.filled y = false := by
      rw [hy.filled_of_absent hs hf ha]
      exact hrest f List.mem_cons_self
    -- The default comes after all members of the object but before the items that follow it.
    obtain ⟨w, hw, hwy⟩ := hdefault f hf ho y hyf
    have hm : Filling type.fields depth ((.ok f.name, default f.name) :: ms) x w :=
      (hy.snoc hf hyf hw).perm hs (List.perm_append_singleton _ _)
    obtain ⟨-, x', hx', hm⟩ := hm.of_named hs hf f.named_name
    obtain ⟨z, hz, hzw⟩ := ih (by simpa using hfields) (hs.done_fill hfields hdone hx') (hs.rest_fill hfields hrest hx') hm
    exact ⟨z, (congrArg (· >>= _) hx').trans hz, hzw.trans hwy⟩

/-- An array with the values in the order of the fields is the record of the object. -/
theorem decodeRecord_listed (ht : type.Orderly) (hdefault : type.Defaults default depth)
    {ms : List (Spelling × Document)} {ds : List Document} {a : α} (hl : Listed default type.fields ms ds)
    (h : decodeRecord type (depth + 1) (.object (.ofList ms)) = .ok a) :
    decodeRecord type (depth + 1) (.array (.ofList ds)) = .ok a := by
  obtain ⟨y, hy, ha⟩ := (decodeRecord_object ht.separate).1 h
  obtain ⟨z, hz, hzy⟩ := hl.fill ht.separate hdefault rfl (fun _ hf => absurd hf List.not_mem_nil) ht.blank hy
  exact (congrArg (· >>= _) hz).trans (hzy.trans ha)

end Listed

end CourseCatalog.Json
