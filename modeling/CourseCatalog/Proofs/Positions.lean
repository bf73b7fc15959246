import CourseCatalog.Proofs.Building
/-!
# Ids are positions

Building gives the entities of a kind their slots in the order in which they are listed.
So an id says at which position its entity is listed, and taken to another catalog it
leads to what is listed there at that position. The two are the same entity only in the
same catalog.
-/

namespace CourseCatalog.Catalog

/-- Catalogs that have been opened, each with a serial number of its own. Two of them may have the same dataset. -/
def opened (datasets : Nat → Dataset) (i : Nat) : Catalog :=
  ((datasets i).build i).value

/-- Taken from one catalog to another, an id leads to the entity that is listed there at its position, or nowhere if
fewer are listed. What is found is the entity of the id's own catalog exactly if the catalogs are the same. -/
structure ByPosition {Id : Type} (listed : Catalog → List Id) (lookup : Catalog → Id → Option (Ref Id))
    (there here : Catalog) (same : Prop) : Prop where
  found : ∀ (n : Nat) (id : Id), (listed here)[n]? = some id → lookup there id = (listed there)[n]?.map there.ref
  same_iff : ∀ id ∈ listed here, ∀ r, lookup there id = some r → (r = here.ref id ↔ same)

theorem ref_eq_iff {Id : Type} {c c' : Catalog} {id : Id} : c.ref id = c'.ref id ↔ c.serial = c'.serial := by
  simp [ref]

/-- Where the entities are listed in the order of their slots, a lookup by slot goes by position. -/
theorem byPosition_of_slots {Id : Type} {listed : Catalog → List Id} {lookup : Catalog → Id → Option (Ref Id)}
    {there here : Catalog} {same : Prop} (id : Nat → Id) (count : Catalog → Nat)
    (hthere : listed there = (List.range (count there)).map id) (hhere : listed here = (List.range (count here)).map id)
    (hlookup : ∀ n, lookup there (id n) = if n < count there then some (there.ref (id n)) else none)
    (hsame : there.serial = here.serial ↔ same) : ByPosition listed lookup there here same := by
  constructor
  · intro n k hk
    rw [hhere, List.getElem?_map, Option.map_eq_some_iff] at hk
    obtain ⟨slot, hslot, rfl⟩ := hk
    obtain rfl : slot = n := by
      obtain ⟨_, h⟩ := List.getElem?_eq_some_iff.1 hslot
      rw [← h, List.getElem_range]
    rw [hlookup, hthere, List.getElem?_map]
    by_cases hn : slot < count there
    · rw [if_pos hn, List.getElem?_range hn]
      rfl
    · rw [if_neg hn, List.getElem?_eq_none (by simpa using hn)]
      rfl
  · intro k hk r hr
    rw [hhere, List.mem_map] at hk
    obtain ⟨slot, -, rfl⟩ := hk
    rw [hlookup, Option.ite_none_right_eq_some] at hr
    rw [← Option.some.inj hr.2, ref_eq_iff, hsame]

/-- Taken from one opened catalog to another or back to its own, the id of the n-th college, major or course leads to
the n-th one there, if there is one, and this is the same entity exactly if it is the same catalog. -/
theorem ids_are_positions (datasets : Nat → Dataset) (i j : Nat) :
    let there := opened datasets i
    let here := opened datasets j
    ByPosition colleges college? there here (i = j) ∧ ByPosition majors major? there here (i = j) ∧
      ByPosition courses course? there here (i = j) := by
  intro there here
  have hlink : ∀ k, opened datasets k = (datasets k).link k := fun k => (datasets k).value_build k
  have hsame : there.serial = here.serial ↔ i = j := by
    rw [show there = (datasets i).link i from hlink i, show here = (datasets j).link j from hlink j]
    exact Iff.rfl
  have hcolleges : ∀ k, (opened datasets k).colleges =
      (List.range (opened datasets k).collegeTable.length).map CollegeId.mk := by
    intro k
    rw [hlink, Dataset.link, Dataset.length_collegeTable]
    rfl
  have hmajors : ∀ k, (opened datasets k).majors =
      (List.range (opened datasets k).majorTable.length).map MajorId.mk := by
    intro k
    rw [hlink, Dataset.majors_link, Dataset.link, Dataset.length_majorTable]
  have hcourses : ∀ k, (opened datasets k).courses =
      (List.range (opened datasets k).courseTable.length).map CourseId.mk := by
    intro k
    rw [hlink, Dataset.courses_link, Dataset.link, Dataset.length_courseTable]
  refine ⟨?_, ?_, ?_⟩
  · exact byPosition_of_slots CollegeId.mk (·.collegeTable.length) (hcolleges i) (hcolleges j) (fun _ => rfl) hsame
  · exact byPosition_of_slots MajorId.mk (·.majorTable.length) (hmajors i) (hmajors j) (fun _ => rfl) hsame
  · exact byPosition_of_slots CourseId.mk (·.courseTable.length) (hcourses i) (hcourses j) (fun _ => rfl) hsame

end CourseCatalog.Catalog
