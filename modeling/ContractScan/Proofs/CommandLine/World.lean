import ContractScan.CommandLine.Files
import ContractScan.CommandLine.Run

/-!
# Runs in a world

A world answers the questions of a program one after the other (`World.run_bind`). A part of a run
that finds out something (`World.Finds`) leaves the world as it is, and so does a row of such parts;
all but writing a file and sending a request are of this kind, and loading the settings is
(`World.exists_finds_loadSettings`).
-/

namespace ContractScan

open CommandLine (loadSettings settingsText)

namespace World

variable {α β : Type} {w : World}

theorem run_bind (w : World) (p : Program α) (f : α → Program β) :
    w.run (p >>= f) = (w.run p).2.run (f (w.run p).1) :=
  congrFun (Program.perform_andThen answer p f) w

/-- The part of a run has the result in the world and leaves the world as it is. -/
def Finds (w : World) (t : CommandLine.Task α) (r : Except RunError α) : Prop :=
  w.run t.run = (r, w)

theorem finds_pure (w : World) (a : α) : w.Finds (pure a) (.ok a) := rfl

theorem finds_throw (w : World) (e : RunError) :
    w.Finds (throw e : CommandLine.Task α) (.error e) := rfl

theorem finds_ofExcept (w : World) {ε : Type} (toError : ε → RunError) (r : Except ε α) :
    w.Finds (CommandLine.Task.ofExcept toError r) (r.mapError toError) := by
  cases r <;> rfl

variable {t : CommandLine.Task α} {f : α → CommandLine.Task β} {a : α} {r : Except RunError β}

/-- After a success a run goes on. -/
theorem Finds.bind (first : w.Finds t (.ok a)) (next : w.Finds (f a) r) : w.Finds (t >>= f) r := by
  refine (run_bind w t.run (ExceptT.bindCont f)).trans ?_
  rw [first]
  exact next

/-- After a failure a run does not go on. -/
theorem Finds.bind_error {e : RunError} (first : w.Finds t (.error e)) :
    w.Finds (t >>= f) (.error e) := by
  refine (run_bind w t.run (ExceptT.bindCont f)).trans ?_
  rw [first]
  rfl

theorem finds_isFile (w : World) (path : String) :
    w.Finds (CommandLine.Task.ask (.isFile path)) (.ok (w.files.isFile path)) := rfl

theorem finds_environment (w : World) (names : List String) :
    w.Finds (CommandLine.Task.ask (.environment names)) (.ok w.environment) := rfl

theorem finds_time (w : World) : w.Finds (CommandLine.Task.ask .time) (.ok w.time) := rfl

theorem finds_read (w : World) (path : String) :
    w.Finds (CommandLine.Task.read path) ((w.files.read path).mapError .file) :=
  Finds.bind (a := w.files.read path) rfl (w.finds_ofExcept .file _)

/-- A result is rewritten where it is. -/
theorem Finds.map {g : α → β} (first : w.Finds t (.ok a)) : w.Finds (g <$> t) (.ok (g a)) := by
  refine (run_bind w t.run _).trans ?_
  rw [first]
  rfl

/-- A row of parts that leave the world as it is does so too. -/
theorem exists_finds_bind (first : ∃ r, w.Finds t r) (next : ∀ a, ∃ r, w.Finds (f a) r) :
    ∃ r, w.Finds (t >>= f) r := by
  obtain ⟨r, first⟩ := first
  cases r with
  | error e => exact ⟨.error e, first.bind_error⟩
  | ok a =>
    obtain ⟨r, next⟩ := next a
    exact ⟨r, first.bind next⟩

theorem exists_finds_map (g : α → β) (first : ∃ r, w.Finds t r) : ∃ r, w.Finds (g <$> t) r := by
  obtain ⟨r, first⟩ := first
  refine ⟨r.map g, (run_bind w t.run _).trans ?_⟩
  rw [first]
  cases r <;> rfl

/-- The document with the settings is the file that is named, or else the user's. -/
theorem finds_settingsText {folder path : Option String} {file text : String}
    (which : path = some file ∨ path = none ∧ folder.map Settings.userFile = some file)
    (there : w.files.isFile file = true) (read : w.files.read file = .ok text) :
    w.Finds (settingsText folder path) (.ok (some text)) := by
  have found : w.Finds (CommandLine.Task.read file) (.ok text) := by
    have found := w.finds_read file
    rwa [read] at found
  rcases which with rfl | ⟨rfl, user⟩
  · refine (w.finds_isFile file).bind ?_
    rw [there]
    exact found.map
  · rw [settingsText, user]
    refine (w.finds_isFile file).bind ?_
    rw [there]
    exact found.map

theorem exists_finds_settingsText (w : World) (folder path : Option String) :
    ∃ r, w.Finds (settingsText folder path) r := by
  have text (file : String) : ∃ r, w.Finds (some <$> CommandLine.Task.read file) r :=
    exists_finds_map some ⟨_, w.finds_read file⟩
  cases path with
  | some file =>
    refine exists_finds_bind ⟨_, w.finds_isFile file⟩ fun there ↦ ?_
    cases there with
    | true => exact text file
    | false => exact ⟨_, w.finds_throw _⟩
  | none =>
    rw [settingsText]
    cases folder.map Settings.userFile with
    | none => exact ⟨_, w.finds_pure none⟩
    | some file =>
      refine exists_finds_bind ⟨_, w.finds_isFile file⟩ fun there ↦ ?_
      cases there with
      | true => exact text file
      | false => exact ⟨_, w.finds_pure none⟩

/-- The settings are those of the document, changed by the environment. -/
theorem finds_loadSettings {folder path document : Option String} {s : Settings}
    (found : w.Finds (settingsText folder path) (.ok document))
    (merged : Settings.ofDocument document = .ok s) :
    w.Finds (loadSettings folder path) (.ok (s.override w.environment)) := by
  have settings : w.Finds (CommandLine.Task.ofExcept .settings (Settings.ofDocument document))
      (.ok s) := by
    rw [merged]
    exact w.finds_ofExcept RunError.settings (.ok s)
  exact found.bind (settings.bind ((w.finds_environment _).bind (w.finds_pure _)))

/-- Loading the settings leaves the world as it is. -/
theorem exists_finds_loadSettings (w : World) (folder path : Option String) :
    ∃ r, w.Finds (loadSettings folder path) r :=
  exists_finds_bind (w.exists_finds_settingsText folder path) fun _ ↦
    exists_finds_bind ⟨_, w.finds_ofExcept _ _⟩ fun _ ↦
      ⟨_, (w.finds_environment _).bind (w.finds_pure _)⟩

end World

end ContractScan
