import CourseCatalog.Proofs.Toml.Lines
import CourseCatalog.Settings.Load
/-!
# Settings as they are shown

Settings that stand in a file as they are shown are loaded from it as they are. The file sets the
dataset only if there is one, and otherwise leaves it at its default, which is none.
-/

namespace CourseCatalog.Settings

/-! ## Reading what is shown -/

/-- The line of a dataset. -/
def datasetLine (path : String) : Toml.KeyLine where
  key := "dataset"
  text := Toml.stringText path.toList
  value := .string path
  bare := ⟨by decide, List.all_eq_true.1 (by decide)⟩
  spells := Toml.spells_stringText path

/-- The line that says whether a listing names each course once. -/
def distinctLine (distinct : Bool) : Toml.KeyLine where
  key := "distinct_prerequisites"
  text := (if distinct then "true" else "false").toList
  value := .bool distinct
  bare := ⟨by decide, List.all_eq_true.1 (by decide)⟩
  spells := Toml.spells_bool distinct

/-- The lines that settings are shown with. -/
def shownLines (s : Settings) : List Toml.KeyLine :=
  (s.dataset.map datasetLine).toList ++ [distinctLine s.distinct]

theorem toList_toToml (s : Settings) : s.toToml.toList = s.shownLines.flatMap Toml.KeyLine.chars := by
  have hd : "dataset = ".toList = "dataset".toList ++ [' ', '=', ' '] := by decide
  have hp : "distinct_prerequisites = ".toList = "distinct_prerequisites".toList ++ [' ', '=', ' '] := by decide
  have hn : "\n".toList = ['\n'] := by decide
  obtain ⟨dataset, distinct⟩ := s
  cases dataset <;> simp [toToml, shownLines, Toml.KeyLine.chars, datasetLine, distinctLine, hd, hp, hn]

theorem read_toToml (s : Settings) : Toml.read s.toToml = some (s.shownLines.map Toml.KeyLine.entry) := by
  refine Toml.read_keyLines (toList_toToml s) ?_
  obtain ⟨dataset, distinct⟩ := s
  cases dataset <;> simp [shownLines, datasetLine, distinctLine]

theorem ofToml?_toToml (s : Settings) : Layer.ofToml? s.toToml = some ⟨s.dataset, some s.distinct⟩ := by
  rw [Layer.ofToml?, read_toToml]
  obtain ⟨dataset, distinct⟩ := s
  cases dataset <;> rfl

/-! ## Loading what is shown -/

theorem setting?_eq_none {host : Host} (hv : ∀ v ∈ host.environment, ¬ "coursegraph_".toList <+: (lower v.1).toList)
    (key : String) : setting? host key = none := by
  unfold setting?
  rw [Option.map_eq_none_iff, List.find?_eq_none]
  intro v hm he
  refine hv v (List.mem_reverse.1 hm) ?_
  rw [eq_of_beq he, String.toList_append]
  exact List.prefix_append _ _

theorem fromUTF8?_toUTF8 (s : String) : String.fromUTF8? s.toUTF8 = some s := by
  simp only [String.fromUTF8?, String.toUTF8_eq_toByteArray, dif_pos s.isValidUTF8]
  rfl

theorem ofFile_toToml {s : Settings} {host : Host} {path : String} (hf : host.entry path = .file s.toToml.toUTF8) :
    Layer.ofFile host path = .ok ⟨s.dataset, some s.distinct⟩ := by
  have ht : (host.entry path).text = .ok s.toToml :=
    Entry.text_eq_ok_iff.2 ⟨s.toToml.toUTF8, by rw [hf]; rfl, fromUTF8?_toUTF8 s.toToml⟩
  simp only [Layer.ofFile, ht, ofToml?_toToml]

/-- Settings are loaded from a file as they are shown, where the environment sets nothing. -/
theorem load_toToml {s : Settings} {host : Host} {path : String} (hf : host.entry path = .file s.toToml.toUTF8)
    (hv : ∀ v ∈ host.environment, ¬ "coursegraph_".toList <+: (lower v.1).toList)
    (he : ∀ p ∈ s.dataset, Expansion.expand host p = p) : load host (some path) = .ok s := by
  have henv : Layer.ofEnvironment host = {} := by
    simp only [Layer.ofEnvironment, setting?_eq_none hv]
    rfl
  have hexp : s.dataset.map (Expansion.expand host) = s.dataset := by
    cases h : s.dataset with
    | none => rfl
    | some p => rw [Option.map_some, he p h]
  have hover : ({} : Settings).overlay ⟨s.dataset, some s.distinct⟩ = s := by
    obtain ⟨dataset, distinct⟩ := s
    cases dataset <;> rfl
  calc load host (some path)
    _ = .ok (expanded host ((({} : Settings).overlay ⟨s.dataset, some s.distinct⟩).overlay {})) := by
      simp only [load, file?, ofFile_toToml hf, henv]
      rfl
    _ = .ok s := by
      rw [hover]
      simp [expanded, overlay, hexp]

/-- Settings with a path that has every kind of quote, a backslash, line breaks and a control. -/
def awkward : Settings where
  dataset := some "it's '''\"C:\\new\"\"\"\r\n\x01"
  distinct := true

theorem load_toToml_awkward :
    let host : Host := { entry := fun _ => .file awkward.toToml.toUTF8, environment := [("HOME", "/root")] }
    (∀ v ∈ host.environment, ¬ "coursegraph_".toList <+: (lower v.1).toList) ∧
      (∀ p ∈ awkward.dataset, Expansion.expand host p = p) ∧ load host (some "shown.toml") = .ok awkward := by
  intro host
  have hv : ∀ v ∈ host.environment, ¬ "coursegraph_".toList <+: (lower v.1).toList := by decide
  have he : ∀ p ∈ awkward.dataset, Expansion.expand host p = p := by
    intro p hp
    cases hp
    decide
  exact ⟨hv, he, load_toToml rfl hv he⟩

end CourseCatalog.Settings
