import Deflatten.Proofs.CommandLine.Failures
import Deflatten.Proofs.CommandLine.Requests
import Deflatten.Proofs.Json.Members
import Deflatten.Proofs.Settings.Layers
/-!
# Settings from the command line

The settings of a request are its own values on top of those of its settings file, on top of the defaults. The main
statement is `CommandLine.settings_layered`: what comes of the layers, and that no command line leads to a source type
that cannot be read.
-/

namespace Deflatten

theorem Logged.Ends.lift {α : Type} {y : StateM Store α} {s : Store} {P : Except Failure α → Store → Prop}
    (h : P (.ok (y.run s).1) (y.run s).2) : Ends (liftM y) s P := fun _ => h

namespace CommandLine

open Logged Settings

namespace Request

/-- Whether a request has no settings file, or one that holds an object with these members. -/
def Configures (r : Request) (s : Store) (members : List (String × Json)) : Prop :=
  match r.config with
  | none => members = []
  | some path => ∃ octets chars, s.content path = .ok octets ∧ Utf8.decode octets = .ok chars ∧
      Json.parse (Utf8.plainLines chars) = .ok (.object members)

/-- The settings of a request with a settings file: for each the value on the command line if there is one, or else that
of its member if there is one, or else the default. -/
def resolved (r : Request) (members : List (String × Json)) : Settings where
  orderName := r.orderName <|> textOf? members .orderName
  selectorName := r.selectorName <|> textOf? members .selectorName
  sourceType := (r.sourceType <|> textOf? members .sourceType).getD "script"
  tolerant := if r.tolerant then true else (boolOf? members .tolerant).getD false
  lowerRanges := if r.keepRanges then false else (boolOf? members .lowerRanges).getD true
  annotationPrefix := (textOf? members .annotationPrefix).getD Replay.defaultPrefix
  outputDirectory := r.outputDirectory <|> (textOf? members .outputDirectory).map .ofText

theorem override_given (r : Request) (members : List (String × Json)) :
    (given members).override r.overrides = r.resolved members := by
  have hswitch : ∀ (on value other : Bool), (if on then some value else none).getD other =
      if on then value else other := by
    intro on value other
    cases on <;> rfl
  simp only [override, given, overrides, resolved, getD_orElse, hswitch, Option.getD_none]

end Request

/-! ## Reading the settings -/

variable {r : Request} {s : Store}

/-- What comes of reading settings from a file. -/
def loadOver (path : Path) (s : Store) : Except SettingsError Settings :=
  match s.content path with
  | .error fault => .error (.unreadable path (.file fault))
  | .ok octets => ofOctets path octets

theorem run_load (path : Path) (s : Store) : (load path : StateM Store _).run s = (loadOver path s, s) := by
  rw [load, StateT.run_bind, loadOver]
  change (match s.content path with
    | .error fault => pure (.error (.unreadable path (.file fault)))
    | .ok octets => pure (ofOctets path octets) : StateM Store _).run s = _
  split <;> rfl

/-- The settings of a request over the files that there are. -/
def settingsOver (r : Request) (s : Store) : Except SettingsError Settings :=
  match r.config with
  | none => .ok (({} : Settings).override r.overrides)
  | some path => (loadOver path s).map (·.override r.overrides)

theorem outcome_settings (r : Request) (log : List Event) (s : Store) :
    outcome (settings r) log s = ((settingsOver r s).mapError .settings, s) := by
  have hends : Ends (settings r) s fun result t => result = (settingsOver r s).mapError .settings ∧ t = s := by
    rw [settings, settingsOver]
    cases r.config with
    | none => exact Ends.pure ⟨rfl, rfl⟩
    | some path =>
      refine Ends.bind (Ends.lift ?_)
      rw [run_load]
      dsimp only
      cases loadOver path s with
      | ok a => exact Ends.bind (Ends.pure (Ends.pure ⟨rfl, rfl⟩))
      | error e => exact Ends.bind (Ends.throw ⟨rfl, rfl⟩)
  exact Prod.ext (hends log).1 (hends log).2

/-- A settings file that can be read and holds well-typed settings gives these. -/
theorem settingsOver_of_configures {members : List (String × Json)} (hfile : r.Configures s members)
    (htyped : IsWellTyped members) : settingsOver r s = .ok (r.resolved members) := by
  rw [← r.override_given, settingsOver]
  rw [Request.Configures] at hfile
  split at hfile
  · rw [hfile]
    rfl
  · next path _ =>
    obtain ⟨octets, chars, hcontent, hdecode, hparse⟩ := hfile
    have hmembers : ofMembers members = .ok (given members) :=
      (ofMembers_eq_ok_iff (Json.nodup_of_parse hparse)).mpr ⟨htyped, rfl⟩
    have hload : loadOver path s = .ok (given members) := by
      rw [loadOver, hcontent]
      dsimp only
      rw [ofOctets, hdecode]
      dsimp only
      rw [hparse]
      exact hmembers
    rw [hload]
    rfl

theorem isReadable_of_ofMembers {members : List (String × Json)} {a : Settings} (h : ofMembers members = .ok a) :
    a.isReadable := by
  rw [ofMembers] at h
  split at h
  · obtain ⟨o, -, h⟩ := Json.exists_of_bind_eq_ok h
    dsimp only at h
    split at h
    · next hreadable =>
      cases h
      exact hreadable
    · cases h
  · cases h

theorem isReadable_of_loadOver {path : Path} {a : Settings} (h : loadOver path s = .ok a) : a.isReadable := by
  rw [loadOver] at h
  split at h
  · cases h
  · rw [ofOctets] at h
    split at h
    · cases h
    · split at h
      · cases h
      · exact isReadable_of_ofMembers h
      · cases h

/-- The settings of a request can be read if the request has no source type but one of the choices. -/
theorem isReadable_of_settingsOver (hr : r.ChoosesType) {a : Settings} (h : settingsOver r s = .ok a) :
    a.isReadable := by
  have hoverride : ∀ b : Settings, b.isReadable → (b.override r.overrides).isReadable := by
    intro b hb
    rw [isReadable_iff] at hb ⊢
    change r.sourceType.getD b.sourceType = _ ∨ r.sourceType.getD b.sourceType = _
    cases hname : r.sourceType with
    | none => exact hb
    | some name => exact hr name hname
  rw [settingsOver] at h
  split at h
  · cases h
    exact hoverride {} rfl
  · obtain ⟨b, hload, rfl⟩ := Json.exists_of_map_eq_ok h
    exact hoverride b (isReadable_of_loadOver hload)

/-! ## Answers -/

theorem yields_settings (hr : r.ChoosesType) : Yields (settings r) fun a => a.isReadable := by
  intro s log
  rw [outcome_settings]
  cases h : settingsOver r s with
  | ok a => exact isReadable_of_settingsOver hr h
  | error e => rfl

/-- Nothing that a request asks for fails for want of a source type. -/
theorem yields_perform (hr : r.ChoosesType) (input : Path) : Yields (perform r input) fun _ => True := by
  have hrun : Yields (do
      let s ← settings r
      report [.processing input, .orderName s.orderName, .selectorName s.selectorName]
      Deflattening.runFile s input) fun _ => True :=
    (yields_settings hr).bind fun a ha => (Yields.report _).bind fun _ _ => Deflattening.yields_runFile ha input
  refine (Yields.lift _).bind fun found _ => (Deflattening.yields_file found).bind fun isFile _ => ?_
  split
  · exact hrun
  · exact Yields.bind (P := fun _ => True) (Yields.throw rfl) fun _ _ => hrun

/-- What leaves no answer is a failure of what the request asks for, and not one that is reported. -/
theorem outcome_of_answer {input : Path} {f : Failure}
    (h : ((answer r input : StateM Store _).run s).1 = .error f) :
    (outcome (perform r input) [] s).1 = .error f ∧ f.isReported = false := by
  rcases hrun : Id.run (((perform r input : Logged (StateM Store) _).run.run []).run s) with ⟨⟨result, events⟩, t⟩
  have hpure : ((perform r input : Logged (StateM Store) _).run.run []).run s = pure ((result, events), t) := hrun
  rw [answer, StateT.run_bind, hpure, pure_bind] at h
  simp only [outcome, hrun]
  cases result with
  | ok a => cases h
  | error failure =>
    dsimp only at h
    split at h
    · cases h
    · next hreported =>
      cases h
      exact ⟨rfl, by simpa using hreported⟩

/-- No command line ends with the error of a source type that cannot be read. -/
theorem run_ne_unknownSourceType (arguments : List String) (s : Store) (name : String) :
    ((run arguments : StateM Store _).run s).1 ≠ .error (.script (.unknownSourceType name)) := by
  intro h
  rw [run] at h
  split at h
  · cases h
  · cases h
  · next r hrequest =>
    split at h
    · cases h
    · next input hinput =>
      have hfails := yields_perform (choosesType_of_arguments hrequest) (.ofText input) s []
      rw [(outcome_of_answer h).1] at hfails
      cases hfails

/-- For every request that a command line leads to, each setting is the value on the command line if there is one, or else
that of the settings file if there is one, or else the default. Overrides that are put on top one layer after the other
count as one, for each setting the last that is given, and the settings from which others are made stay as they are. The
source type is that of a script or of a module, so that the parser's error about it, which is not reported, never ends a
run. -/
theorem settings_layered :
    (∀ arguments r, Request.ofArguments arguments = .ok r → ∀ s log,
      (∀ members, r.Configures s members → IsWellTyped members →
        outcome (settings r) log s = (.ok (r.resolved members), s)) ∧
      ∀ a t, outcome (settings r) log s = (.ok a, t) → a.sourceType = "script" ∨ a.sourceType = "module") ∧
    (∀ (a : Settings) (o o' : Overrides), (a.override o).override o' = a.override (o'.onTopOf o)) ∧
    (∀ (a : Settings) (layers : List Overrides) k, k ≤ layers.length →
      (layers.scanl override a)[k]? = some (a.override (.latest (layers.take k)))) ∧
    ∀ arguments s name, (Failure.script (.unknownSourceType name)).isReported = false ∧
      ((run arguments : StateM Store _).run s).1 ≠ .error (.script (.unknownSourceType name)) := by
  refine ⟨fun arguments r hr s log => ⟨fun members hfile htyped => ?_, fun a t h => ?_⟩, override_override,
    fun a layers k => getElem?_scanl_override a, fun arguments s name => ⟨rfl, run_ne_unknownSourceType arguments s name⟩⟩
  · rw [outcome_settings, settingsOver_of_configures hfile htyped]
    rfl
  · have hyields := yields_settings (choosesType_of_arguments hr) s log
    rw [h] at hyields
    exact isReadable_iff.mp hyields

/-- Settings for a module. -/
def moduleSettings : List (String × Json) :=
  [("source_type", .text "module"), ("condition_var", .text "D"), ("tolerant", .bool true), ("output_dir", .null)]

/-- A directory with a script and a file of these settings. -/
def configured : Store where
  current := ["home"]
  entries := [(["home"], .directory), (["home", "a.js"], .file "a();".toUTF8.toList),
    (["home", "c.json"], .file (Json.write false (.object moduleSettings)).toUTF8.toList)]

/-- A command line that names these settings, with an empty name for the order. -/
def argumentsForModule : List String := ["a.js", "", "--config", "c.json", "--no-simplify"]

theorem isPlain_moduleSettings : (Json.object moduleSettings).IsPlain false := by
  refine .object (by decide) (fun m _ => Json.isPlainText_of_not_asciiOnly m.1) fun m hm => ?_
  simp only [moduleSettings, List.mem_cons, List.not_mem_nil, or_false] at hm
  rcases hm with rfl | rfl | rfl | rfl
  · exact .text (Json.isPlainText_of_not_asciiOnly _)
  · exact .text (Json.isPlainText_of_not_asciiOnly _)
  · exact .bool true
  · exact .null

/-- The request of this command line. -/
def requestForModule : Request where
  input := some "a.js"
  orderName := some ""
  config := some (.ofText "c.json")
  keepRanges := true

theorem configures_requestForModule : requestForModule.Configures configured moduleSettings := by
  have hwritable : (Json.object moduleSettings).IsWritable := by
    simp only [moduleSettings, Json.isWritable_object_iff, List.forall_mem_cons]
    exact ⟨.text _, .text _, .bool true, .null, List.forall_mem_nil _⟩
  have hplain : Utf8.plainLines (Json.write false (.object moduleSettings)).toList =
      (Json.write false (.object moduleSettings)).toList := by decide +kernel
  refine ⟨(Json.write false (.object moduleSettings)).toUTF8.toList, (Json.write false (.object moduleSettings)).toList,
    by decide +kernel, by decide +kernel, ?_⟩
  rw [hplain]
  exact Json.parse_write isPlain_moduleSettings hwritable

/-- The empty name and the flag come before the file, and the file before the defaults. -/
theorem settings_layered_configured :
    Request.ofArguments argumentsForModule = .ok requestForModule ∧
      requestForModule.Configures configured moduleSettings ∧ IsWellTyped moduleSettings ∧
      (outcome (settings requestForModule) [] configured).1 = .ok
        { orderName := some "", selectorName := some "D", sourceType := "module", tolerant := true,
          lowerRanges := false } := by
  have hrequest : Request.ofArguments argumentsForModule = .ok requestForModule := by decide +kernel
  have hread : ofMembers moduleSettings =
      .ok { selectorName := some "D", sourceType := "module", tolerant := true } := by decide +kernel
  have htyped : IsWellTyped moduleSettings := ((ofMembers_eq_ok_iff (by decide)).mp hread).1
  obtain ⟨hresolved, -⟩ := settings_layered.1 _ _ hrequest configured []
  refine ⟨hrequest, configures_requestForModule, htyped, ?_⟩
  rw [hresolved _ configures_requestForModule htyped]
  rfl

end CommandLine
end Deflatten
