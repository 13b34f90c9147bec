import MessageTemplate.Proofs.Entries
import MessageTemplate.Proofs.Yaml.Readers
import MessageTemplate.Tool.Settings

/-! # What settings hold

The values in the settings are a map: settings that were loaded name each of them once, wherever
they were loaded from. -/

namespace MessageTemplate.Tool

open MessageTemplate.Yaml (Node NodeReader Reads reads_any reads_pure)

namespace Settings

/-- Whether settings name each of their values once. -/
def NamesOnce (settings : Settings) : Prop :=
  (settings.templateVars.map Prod.fst).Nodup

/-- A field that may be left out has what its default and its reader have. -/
theorem reads_readField {α : Type} {property : α → Prop} {default : α}
    {read : Node → NodeReader α} (has : property default)
    (reads : ∀ node, Reads property (read node)) (fields : List (String × Node)) (name : String) :
    Reads property (readField fields name default read) := by
  refine (reads_any _).bind fun node _ => ?_
  split
  · exact reads _
  · exact reads_pure has

/-- Settings that are read from a node name each value once. -/
theorem reads_ofNode (node : Node) : Reads NamesOnce (ofNode node) := by
  rw [ofNode]
  refine (reads_any _).bind fun fields _ => ?_
  refine (reads_any _).bind fun locale _ => (reads_any _).bind fun syntaxWarnings _ => ?_
  refine (reads_any _).bind fun maxDepth _ => (reads_any _).bind fun tables _ => ?_
  have templateVars : Reads (fun pairs => (pairs.map Prod.fst).Nodup)
      (readField fields "template_vars" [] fun node => Entries.ofPairs <$> node.texts) := by
    refine reads_readField .nil (fun node => ?_) _ _
    rw [← bind_pure_comp]
    exact (reads_any _).bind fun pairs _ => reads_pure (Entries.nodup_keys_ofPairs pairs)
  refine templateVars.bind fun pairs distinct => ?_
  exact (reads_any _).bind fun logging _ => reads_pure distinct

/-- Settings that are read from a text name each value once. -/
theorem namesOnce_read? {text : String} {settings : Settings}
    (isRead : read? text = some settings) : settings.NamesOnce := by
  obtain ⟨document, -, given⟩ := Option.bind_eq_some_iff.mp isRead
  cases document with
  | none =>
      cases given
      exact .nil
  | some document => exact Reads.read? reads_ofNode given

/-- The environment has no say in the values that settings name. -/
theorem NamesOnce.withEnvironment {settings loaded : Settings} (once : settings.NamesOnce)
    {environment : Environment} (isLoaded : settings.withEnvironment environment = .ok loaded) :
    loaded.NamesOnce := by
  have bindOk {α β : Type} {first : Except CommandFailure α}
      {next : α → Except CommandFailure β} {result : β} (isOk : first >>= next = .ok result) :
      ∃ value, next value = .ok result := by
    cases first with
    | error failure => cases isOk
    | ok value => exact ⟨value, isOk⟩
  unfold Settings.withEnvironment at isLoaded
  dsimp only at isLoaded
  split at isLoaded
  all_goals
    obtain ⟨maxDepth, isLoaded⟩ := bindOk isLoaded
    split at isLoaded
    all_goals
      obtain ⟨syntaxWarnings, isLoaded⟩ := bindOk isLoaded
      cases isLoaded
      exact once

/-- Settings that are loaded from a file name each value once. -/
theorem namesOnce_loadFile {files : FileAccess Id} {path : String} {settings : Settings}
    (isLoaded : loadFile files path = .ok settings) : settings.NamesOnce := by
  rw [loadFile] at isLoaded
  cases isText : files.read path with
  | error problem =>
      simp only [isText] at isLoaded
      cases isLoaded
  | ok text =>
      simp only [bind, isText] at isLoaded
      cases isRead : read? text with
      | none =>
          simp only [isRead] at isLoaded
          cases isLoaded
      | some found =>
          simp only [isRead] at isLoaded
          cases isLoaded
          exact namesOnce_read? isRead

/-- Whatever settings are loaded, and from wherever, name each of their values once. -/
theorem namesOnce_load {files : FileAccess Id} {environment : Environment}
    {home path : Option String} {settings : Settings}
    (isLoaded : load files environment home path = .ok settings) : settings.NamesOnce := by
  have settle {loaded : Except CommandFailure Settings}
      (once : ∀ settings, loaded = .ok settings → settings.NamesOnce)
      (isSettled : (loaded.bind fun settings => settings.withEnvironment environment) =
        .ok settings) : settings.NamesOnce := by
    cases loaded with
    | error failure => cases isSettled
    | ok found => exact (once found rfl).withEnvironment isSettled
  unfold load at isLoaded
  dsimp only at isLoaded
  generalize firstPresent files _ = found at isLoaded
  cases found with
  | none =>
      have defaultsOnce : ∀ settings : Settings, (.ok {} : Except CommandFailure Settings) =
          .ok settings → settings.NamesOnce := by
        rintro _ ⟨rfl⟩
        exact .nil
      exact settle defaultsOnce isLoaded
  | some path =>
      have fileOnce : ∀ settings, (loadFile files path).run = .ok settings → settings.NamesOnce :=
        fun _ => namesOnce_loadFile
      exact settle fileOnce isLoaded

end Settings

end MessageTemplate.Tool
