import CourseCatalog.Proofs.Failures
import CourseCatalog.Proofs.Settings.Shown
/-!
# Layers of settings

The command line stands over the environment, the environment over one file, and the file over the
defaults. A dataset is expanded if it does not come from the command line. Only the file can keep
settings from being loaded.
-/

namespace CourseCatalog

namespace Expansion

/-- A variable that the text names has no value, nor does the text give a default for it. -/
inductive Lacks (value? : String → Option String) : List Char → Prop
  | here {rest : List Char} (h : dollar? value? rest = none) : Lacks value? ('$' :: rest)
  | behind {rest v : List Char} {used : Nat} (h : dollar? value? rest = some (v, used))
      (hr : Lacks value? (rest.drop used)) : Lacks value? ('$' :: rest)
  | later {c : Char} {rest : List Char} (hc : c ≠ '$') (hr : Lacks value? rest) : Lacks value? (c :: rest)

variable {value? : String → Option String} {c : Char} {cs : List Char}

theorem lacks_dollar {v : List Char} {used : Nat} (hd : dollar? value? cs = some (v, used)) :
    Lacks value? ('$' :: cs) ↔ Lacks value? (cs.drop used) := by
  constructor
  · intro h
    cases h with
    | here h => simp [hd] at h
    | behind h hr =>
      rw [hd] at h
      cases h
      exact hr
    | later hc _ => exact absurd rfl hc
  · exact .behind hd

theorem lacks_plain (hc : c ≠ '$') : Lacks value? (c :: cs) ↔ Lacks value? cs := by
  constructor
  · intro h
    cases h with
    | here | behind => exact absurd rfl hc
    | later _ hr => exact hr
  · exact .later hc

/-- A substitution fails just where a variable has no value, behind the characters that are skipped. -/
theorem substitute?_eq_none_iff {skip : Nat} : substitute? value? skip cs = none ↔ Lacks value? (cs.drop skip) := by
  induction cs generalizing skip with
  | nil =>
    rw [List.drop_nil, substitute?]
    exact ⟨nofun, nofun⟩
  | cons c cs ih =>
    cases skip with
    | succ skip => rw [substitute?, ih, List.drop_succ_cons]
    | zero =>
      rw [List.drop_zero]
      by_cases hc : c = '$'
      · subst hc
        cases hd : dollar? value? cs with
        | none => exact ⟨fun _ => .here hd, fun _ => by simp [substitute?, hd]⟩
        | some out =>
          rw [lacks_dollar hd, ← ih]
          cases h : substitute? value? out.2 cs <;> simp [substitute?, hd, h]
      · rw [lacks_plain hc, ← cs.drop_zero, ← ih]
        cases h : substitute? value? 0 cs <;> simp [substitute?, hc, h]

/-- If a variable has no value the whole text stays. -/
theorem expand_eq_self {host : Host} {text : String} (h : Lacks host.valueOf? text.toList) :
    expand host text = text := by
  have hs : substitute? host.valueOf? 0 text.toList = none := substitute?_eq_none_iff.2 h
  rw [expand, hs]

end Expansion

namespace Settings

/-! ## Environment -/

/-- The values of the variables with a name, in any case. -/
def given (host : Host) (name : String) : List String :=
  (host.environment.filter fun v => lower v.1 = lower name).map (·.2)

/-- The word stands for the truth value, in any case. -/
def IsTruthWord (word : String) (b : Bool) : Prop :=
  lower word ∈ if b then ["1", "true", "on", "yes"] else ["0", "false", "off", "no"]

instance (word : String) (b : Bool) : Decidable (IsTruthWord word b) :=
  inferInstanceAs (Decidable (_ ∈ _))

theorem boolOfWord?_eq_some_iff {word : String} {b : Bool} : boolOfWord? word = some b ↔ IsTruthWord word b := by
  have apart : ∀ w ∈ ["1", "true", "on", "yes"], w ∉ ["0", "false", "off", "no"] := by decide
  simp only [boolOfWord?, IsTruthWord, List.contains_eq_mem, decide_eq_true_eq]
  by_cases ht : lower word ∈ ["1", "true", "on", "yes"]
  · rw [if_pos ht]
    cases b with
    | false => exact ⟨nofun, fun hf => absurd hf (apart _ ht)⟩
    | true => exact ⟨fun _ => ht, fun _ => rfl⟩
  · rw [if_neg ht, Option.ite_none_right_eq_some]
    cases b with
    | false => exact and_iff_left rfl
    | true => exact ⟨nofun, fun h => absurd h ht⟩

theorem setting?_eq_given {host : Host} {key name : String} (h : lower name = "coursegraph_" ++ key) :
    setting? host key = (given host name).getLast? := by
  have hfind : (host.environment.reverse.find? fun v => lower v.1 == "coursegraph_" ++ key) =
      (host.environment.filter fun v => lower v.1 = lower name).getLast? := by
    rw [← List.head?_filter, List.filter_reverse, List.head?_reverse, h]
    rfl
  rw [setting?, hfind, given, List.getLast?_map]

/-! ## The file -/

/-- The text is a configuration that gives the layer. -/
def Configures (text : String) (layer : Layer) : Prop :=
  ∃ es, Toml.read text = some es ∧ es.get? "dataset" = layer.dataset.map .string ∧
    es.get? "distinct_prerequisites" = layer.distinct.map .bool

/-- The file at a path can be read, and is a configuration that gives the layer. -/
def FileGives (host : Host) (path : String) (layer : Layer) : Prop :=
  ∃ bytes text, (host.entry path).bytes = .ok bytes ∧ String.fromUTF8? bytes = some text ∧ Configures text layer

/-- The file that is looked at: the one that is named, or the user's own if none is named and there is one. -/
def Consulted (host : Host) (named : Option String) (path : String) : Prop :=
  named = some path ∨ named = none ∧ userFile? host = some path ∧ (host.entry path).exists? = true

/-- What the file gives, which is nothing if no file is looked at. -/
def FromFile (host : Host) (named : Option String) (layer : Layer) : Prop :=
  (∃ path, Consulted host named path ∧ FileGives host path layer) ∨ (¬ ∃ path, Consulted host named path) ∧ layer = {}

theorem stringKey?_eq_some_iff {es : Toml.Entries} {key : String} {given : Option String} :
    stringKey? es key = some given ↔ es.get? key = given.map .string := by
  unfold stringKey?
  cases es.get? key with
  | none => cases given <;> simp
  | some v => cases v <;> cases given <;> simp

theorem boolKey?_eq_some_iff {es : Toml.Entries} {key : String} {given : Option Bool} :
    boolKey? es key = some given ↔ es.get? key = given.map .bool := by
  unfold boolKey?
  cases es.get? key with
  | none => cases given <;> simp
  | some v => cases v <;> cases given <;> simp

theorem ofToml?_eq_some_iff {text : String} {layer : Layer} :
    Layer.ofToml? text = some layer ↔ Configures text layer := by
  obtain ⟨dataset, distinct⟩ := layer
  simp only [Layer.ofToml?, Configures, ← stringKey?_eq_some_iff, ← boolKey?_eq_some_iff]
  simp [Option.bind_eq_some_iff]

theorem ofFile_eq_ok_iff {host : Host} {path : String} {layer : Layer} :
    Layer.ofFile host path = .ok layer ↔ FileGives host path layer := by
  have hgives : FileGives host path layer ↔
      ∃ text, (host.entry path).text = .ok text ∧ Layer.ofToml? text = some layer := by
    simp only [FileGives, Entry.text_eq_ok_iff, ofToml?_eq_some_iff]
    grind
  rw [hgives, Layer.ofFile]
  cases (host.entry path).text with
  | error problem => simp
  | ok text => cases h : Layer.ofToml? text <;> simp [h]

theorem file?_eq_some_iff {host : Host} {named : Option String} {path : String} :
    file? host named = some path ↔ Consulted host named path := by
  cases named <;> simp [file?, Consulted, Option.filter_eq_some_iff]

/-! ## Loading -/

/-- The settings follow from the command line, the environment and what the file gives. -/
structure InForce (host : Host) (i : Invocation) (layer : Layer) (s : Settings) : Prop where
  flag : ∀ path ∈ i.dataset, s.dataset = some path
  environment : i.dataset = none → ∀ path ∈ given host "COURSEGRAPH_DATASET",
    s.dataset = some (Expansion.expand host path)
  file : i.dataset = none → given host "COURSEGRAPH_DATASET" = [] →
    s.dataset = layer.dataset.map (Expansion.expand host)
  word : ∀ word ∈ given host "COURSEGRAPH_DISTINCT_PREREQUISITES", ∀ b, IsTruthWord word b → s.distinct = b
  noWord : (∀ word ∈ given host "COURSEGRAPH_DISTINCT_PREREQUISITES", ∀ b, ¬ IsTruthWord word b) →
    s.distinct = layer.distinct.getD false

theorem load_of_fromFile {host : Host} {named : Option String} {layer : Layer} (h : FromFile host named layer) :
    load host named = .ok (expanded host ((({} : Settings).overlay layer).overlay (.ofEnvironment host))) := by
  rcases h with ⟨path, hc, hg⟩ | ⟨hc, rfl⟩
  · simp only [load, file?_eq_some_iff.2 hc, ofFile_eq_ok_iff.2 hg]
    rfl
  · have hn : file? host named = none :=
      Option.eq_none_iff_forall_ne_some.2 fun path hp => hc ⟨path, file?_eq_some_iff.1 hp⟩
    simp only [load, hn]
    rfl

theorem load_error_iff {host : Host} {named : Option String} :
    (∃ e, load host named = .error e) ↔ ∃ path, Consulted host named path ∧ ¬ ∃ layer, FileGives host path layer := by
  by_cases hc : ∃ path, Consulted host named path
  · obtain ⟨path, hc⟩ := hc
    have hpath := file?_eq_some_iff.2 hc
    have honly (path' : String) (hc' : Consulted host named path') : path' = path :=
      Option.some.inj ((file?_eq_some_iff.2 hc').symm.trans hpath)
    cases hl : Layer.ofFile host path with
    | ok layer =>
      have hg := ofFile_eq_ok_iff.1 hl
      rw [load_of_fromFile (.inl ⟨path, hc, hg⟩)]
      constructor
      · rintro ⟨e, he⟩
        cases he
      · rintro ⟨path', hc', hn⟩
        exact absurd ⟨layer, honly path' hc' ▸ hg⟩ hn
    | error e =>
      have hn : ¬ ∃ layer, FileGives host path layer := by
        rintro ⟨layer, hg⟩
        rw [ofFile_eq_ok_iff.2 hg] at hl
        cases hl
      refine ⟨fun _ => ⟨path, hc, hn⟩, fun _ => ⟨e, ?_⟩⟩
      simp only [load, hpath, hl]
      rfl
  · rw [load_of_fromFile (.inr ⟨hc, rfl⟩)]
    constructor
    · rintro ⟨e, he⟩
      cases he
    · rintro ⟨path, hp, -⟩
      exact absurd ⟨path, hp⟩ hc

theorem getLast?_of_mem {values : List String} (hl : values.length ≤ 1) {value : String} (hv : value ∈ values) :
    values.getLast? = some value := by
  match values, hl with
  | [v], _ =>
    rw [List.mem_singleton.1 hv]
    rfl

theorem expanded_overlay (host : Host) (layer : Layer) :
    expanded host ((({} : Settings).overlay layer).overlay (.ofEnvironment host)) =
      { dataset := ((given host "COURSEGRAPH_DATASET").getLast?.or layer.dataset).map (Expansion.expand host)
        distinct := ((given host "COURSEGRAPH_DISTINCT_PREREQUISITES").getLast?.bind boolOfWord?).getD
          (layer.distinct.getD false) } := by
  have hd : lower "COURSEGRAPH_DATASET" = "coursegraph_" ++ "dataset" := by decide
  have hp : lower "COURSEGRAPH_DISTINCT_PREREQUISITES" = "coursegraph_" ++ "distinct_prerequisites" := by decide
  simp [expanded, overlay, Layer.ofEnvironment, setting?_eq_given hd, setting?_eq_given hp]

/-- Where no more than one variable sets a key, the layers stand over each other as they should. -/
theorem inForce_overlay {host : Host} (i : Invocation) (layer : Layer)
    (hd : (given host "COURSEGRAPH_DATASET").length ≤ 1)
    (hp : (given host "COURSEGRAPH_DISTINCT_PREREQUISITES").length ≤ 1) :
    let s := expanded host ((({} : Settings).overlay layer).overlay (.ofEnvironment host))
    InForce host i layer { s with dataset := i.dataset.or s.dataset } := by
  rw [expanded_overlay]
  constructor
  case flag =>
    intro path hpath
    rw [hpath]
    rfl
  case environment =>
    intro hn path hpath
    rw [hn, getLast?_of_mem hd hpath]
    rfl
  case file =>
    intro hn he
    rw [hn, he]
    rfl
  case word =>
    intro word hw b hb
    rw [getLast?_of_mem hp hw, Option.bind_some, boolOfWord?_eq_some_iff.2 hb]
    rfl
  case noWord =>
    intro hw
    have hnone : (given host "COURSEGRAPH_DISTINCT_PREREQUISITES").getLast?.bind boolOfWord? = none := by
      refine Option.bind_eq_none_iff.2 fun word hlast => ?_
      refine Option.eq_none_iff_forall_ne_some.2 fun b hb => ?_
      exact hw word (List.mem_of_getLast? hlast) b (boolOfWord?_eq_some_iff.1 hb)
    rw [hnone]
    rfl

end Settings

namespace Invocation

open Settings

/-- The settings of an invocation follow from the layers, and fail only for want of a file that is looked at and is
no configuration. Whatever else the host has on its disk does not matter. -/
theorem settings_layered (host : Host) (i : Invocation) (hd : (given host "COURSEGRAPH_DATASET").length ≤ 1)
    (hp : (given host "COURSEGRAPH_DISTINCT_PREREQUISITES").length ≤ 1) :
    (∀ layer, FromFile host i.config layer → ∃ s, i.settings host = pure s ∧ InForce host i layer s) ∧
      ((∃ e, i.settings host = Report.fail (.settings e)) ↔
        ∃ path, Consulted host i.config path ∧ ¬ ∃ layer, FileGives host path layer) ∧
      (∀ host' : Host, host'.environment = host.environment → host'.accountHome = host.accountHome →
        (∀ path, i.config.or (userFile? host) = some path → host'.entry path = host.entry path) →
        i.settings host' = i.settings host) ∧
      ∀ text, Expansion.Lacks host.valueOf? text.toList → Expansion.expand host text = text := by
  refine ⟨fun layer hf => ?_, ?_, fun host' he ha hf => ?_, fun text => Expansion.expand_eq_self⟩
  · refine ⟨_, ?_, inForce_overlay i layer hd hp⟩
    simp only [Invocation.settings, load_of_fromFile hf]
    rfl
  · rw [← load_error_iff]
    unfold Invocation.settings
    cases hl : load host i.config with
    | error e => exact ⟨fun _ => ⟨e, rfl⟩, fun _ => ⟨e, rfl⟩⟩
    | ok s =>
      constructor <;>
      · rintro ⟨e, he⟩
        cases he
  · unfold Invocation.settings
    rw [load_congr he ha hf]

/-- The host of a user whose file sets both keys and whose home directory is that of the account. One variable stands
over the file, and one is no truth value. -/
def twoLayers : Host where
  entry path :=
    if path = "/home/user/.config/coursegraph/coursegraph.toml" then
      .file (Settings.mk (some "spring.json") true).toToml.toUTF8
    else .absent .missing
  environment := [("HOME", ""), ("CourseGraph_Dataset", "~/fall.json"), ("COURSEGRAPH_DISTINCT_PREREQUISITES", "maybe")]
  accountHome := some "/home/user"

theorem settings_layered_twoLayers :
    let i : Invocation := ⟨0, none, none, .query (.colleges false)⟩
    let unrelated (path : String) := if path = "/home/user/fall.json" then Entry.directory else twoLayers.entry path
    (given twoLayers "COURSEGRAPH_DATASET").length ≤ 1 ∧
      (given twoLayers "COURSEGRAPH_DISTINCT_PREREQUISITES").length ≤ 1 ∧
      i.settings twoLayers = pure ⟨some "/home/user/fall.json", true⟩ ∧
      (∃ e, Invocation.settings twoLayers { i with config := some "other.toml" } = Report.fail (.settings e)) ∧
      i.settings { twoLayers with entry := unrelated } = pure ⟨some "/home/user/fall.json", true⟩ ∧
      Expansion.expand twoLayers "~/$TERM.json" = "~/$TERM.json" := by
  intro i unrelated
  have hd : (given twoLayers "COURSEGRAPH_DATASET").length ≤ 1 := by decide
  have hp : (given twoLayers "COURSEGRAPH_DISTINCT_PREREQUISITES").length ≤ 1 := by decide
  obtain ⟨hlayers, -, hother, hexpand⟩ := settings_layered twoLayers i hd hp
  have hsettings : i.settings twoLayers = pure ⟨some "/home/user/fall.json", true⟩ := by
    have hfile : FromFile twoLayers none ⟨some "spring.json", some true⟩ := by
      refine .inl ⟨"/home/user/.config/coursegraph/coursegraph.toml", .inr ⟨rfl, by decide, rfl⟩, ?_⟩
      exact ofFile_eq_ok_iff.1 (ofFile_toToml (s := ⟨some "spring.json", true⟩) rfl)
    obtain ⟨⟨dataset, distinct⟩, hs, hin⟩ := hlayers _ hfile
    have hdataset : dataset = some "/home/user/fall.json" :=
      (hin.environment rfl "~/fall.json" (by decide)).trans (by decide)
    have hdistinct : distinct = true := hin.noWord (by decide)
    rw [hs, hdataset, hdistinct]
  have hfails : ∃ e, Invocation.settings twoLayers { i with config := some "other.toml" } = Report.fail (.settings e) := by
    refine (settings_layered twoLayers { i with config := some "other.toml" } hd hp).2.1.2 ⟨"other.toml", .inl rfl, ?_⟩
    rintro ⟨layer, bytes, text, hb, -⟩
    cases hb
  have hunrelated : i.settings { twoLayers with entry := unrelated } = i.settings twoLayers := by
    refine hother _ rfl rfl fun path hpath => ?_
    obtain rfl : "/home/user/.config/coursegraph/coursegraph.toml" = path := Option.some.inj hpath
    rfl
  have hlacks : Expansion.Lacks twoLayers.valueOf? "~/$TERM.json".toList :=
    .later (by decide) (.later (by decide) (.here (by decide)))
  exact ⟨hd, hp, hsettings, hfails, hunrelated.trans hsettings, hexpand _ hlacks⟩

end Invocation

end CourseCatalog
