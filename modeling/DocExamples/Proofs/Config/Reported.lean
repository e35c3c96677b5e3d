import DocExamples.Proofs.Config.Guards
import DocExamples.Report.Terminal
import DocExamples.Service.App

/-!
# Which bad configurations are reported

A configuration that is wrong should end a command with a message and be answered by the service as
a bad request. That is so for everything that `Config.load` reports as a fault of the configuration.
The rest leaves it as the failure it is, out of the command and past the answers of the service.

This file says which failures these are, from a path down to the numbers in the settings it leads
to. Bytes that are no text are among them, in a settings file and in the files it names, and so is
whatever the readers of the settings language and of patterns do not report themselves. A setup
module lets nothing through while it is loaded. It is the settings it gives that are looked at like
all others.

The settings language is read by a library, of which one thing is relied on: it makes up no value
with a tag of this program, so what is wrong with one went wrong where it was made. Whatever else
leaves the library is either a report on the text or a failure of its own.
-/

namespace DocExamples

namespace Config

/-- Holds of the failures that the reading of a module file lets through. -/
inductive ModuleUnguarded (files : Files) (directory : List String) (name : String) :
    Failure → Prop where
  | nullInName {e : FileError} (h : bytesBelow files directory (Path.ofString name) = .error e)
      (hfault : e.fault = .nullInName) : ModuleUnguarded files directory name e.failure
  | encoding {bytes : List UInt8} {fault : Utf8.Fault}
      (h : bytesBelow files directory (Path.ofString name) = .ok bytes)
      (htext : Files.textOf bytes = .error fault) :
      ModuleUnguarded files directory name (encodingFailure fault)

theorem readModule_letsThrough (files : Files) (directory : List String) (name : String) :
    LetsThrough (readModule files directory name) (ModuleUnguarded files directory name) := by
  rw [readModule]
  split
  · next e hbytes =>
      split
      · next hfault => exact .unhandled (.nullInName hbytes hfault)
      · exact .reported _
  · next bytes hbytes =>
      split
      · next fault htext => exact .unhandled (.encoding hbytes htext)
      · next text htext =>
          refine .ok _ fun x hx => ?_
          cases hx with
          | nullInName h => exact nomatch hbytes.symm.trans h
          | encoding h h' =>
              cases hbytes.symm.trans h
              exact nomatch htext.symm.trans h'

/-- Holds of a library for the settings language that leaves the tags of this program to it. -/
def YamlLibrary.PassesOn (yaml : YamlLibrary) : Prop :=
  ∀ (made : OwnTag → String → Except LoadError Data) (text : String) (e : LoadError),
    yaml.load made text = .error (.own e) → ∃ tag s, made tag s = .error e

/-- What a library makes of the text of a settings file in a directory. -/
def loaded (files : Files) (yaml : YamlLibrary) (directory : List String) (text : String) :
    Except TextFault Data :=
  yaml.load (make (readModule files directory)) text

/-- Holds of the failures that the text of a settings file in a directory lets through. -/
inductive TextUnguarded (files : Files) (yaml : YamlLibrary) (directory : List String)
    (text : String) : Failure → Prop where
  /-- The library fails, and not because of the language. -/
  | library {x : Failure} (h : loaded files yaml directory text = .error (.failed x)) :
      TextUnguarded files yaml directory text x
  /-- A module file that the text names lets the failure through. -/
  | module {name : String} {x : Failure} (h : ModuleUnguarded files directory name x)
      (hown : loaded files yaml directory text = .error (.own (.unhandled x))) :
      TextUnguarded files yaml directory text x

theorem settingsOf_letsThrough (file : String) (d : Data) :
    LetsThrough (settingsOf file d) fun _ => False := by
  cases d with
  | null | map _ => exact .ok _ fun _ => id
  | _ => exact .reported _

theorem exists_moduleUnguarded {files : Files} {yaml : YamlLibrary} (hyaml : yaml.PassesOn)
    {directory : List String} {text : String} {x : Failure}
    (h : loaded files yaml directory text = .error (.own (.unhandled x))) :
    ∃ name, ModuleUnguarded files directory name x := by
  obtain ⟨tag, s, hmade⟩ := hyaml _ _ _ h
  cases tag with
  | script => cases hmade
  | moduleFile =>
      refine ⟨s, (readModule_letsThrough files directory s).of_unhandled x ?_⟩
      rw [make] at hmade
      cases hmodule : readModule files directory s with
      | ok source =>
          rw [hmodule] at hmade
          cases hmade
      | error e =>
          rw [hmodule] at hmade
          cases hmade
          rfl

theorem readText_letsThrough {files : Files} {yaml : YamlLibrary} (hyaml : yaml.PassesOn)
    (file : String) (directory : List String) {text : String}
    (hblank : Text.isAllBlank text.toList = false) :
    LetsThrough (readText yaml file (readModule files directory) text)
      (TextUnguarded files yaml directory text) := by
  rw [readText, hblank, if_neg Bool.false_ne_true]
  split
  · next fault hfault =>
      cases fault with
      | malformed words => exact .reported _
      | failed x => exact .unhandled (.library hfault)
      | own e =>
          cases e with
          | config e => exact .reported e
          | unhandled x =>
              obtain ⟨name, hname⟩ := exists_moduleUnguarded hyaml hfault
              exact .unhandled (.module hname hfault)
  · next value hvalue =>
      refine (settingsOf_letsThrough file value).congr fun x => ⟨False.elim, fun hx => ?_⟩
      cases hx with
      | library h => cases hvalue.symm.trans h
      | module _ h => cases hvalue.symm.trans h

/-- Holds of the failures that the reading of a settings file lets through, which is given by its
names from the root. -/
inductive ReadUnguarded (files : Files) (yaml : YamlLibrary) (names : List String) :
    Failure → Prop where
  /-- There is no file to be read, as where a directory stands. -/
  | unreadable {e : FileError} (hname : Path.hasSuffix ".py" (names.getLastD "") = false)
      (h : files.textAt names = .error (.file e)) : ReadUnguarded files yaml names e.failure
  /-- The bytes of the file are no text. -/
  | encoding {fault : Utf8.Fault} (hname : Path.hasSuffix ".py" (names.getLastD "") = false)
      (h : files.textAt names = .error (.encoding fault)) :
      ReadUnguarded files yaml names (encodingFailure fault)
  /-- The text of the file lets a failure through. -/
  | text {text : String} {x : Failure} (hname : Path.hasSuffix ".py" (names.getLastD "") = false)
      (htext : files.textAt names = .ok text) (hblank : Text.isAllBlank text.toList = false)
      (h : TextUnguarded files yaml names.dropLast text x) : ReadUnguarded files yaml names x

theorem readSettings_letsThrough (files : Files) (loader : SetupLoader) {yaml : YamlLibrary}
    (hyaml : yaml.PassesOn) (names : List String) :
    LetsThrough (readSettings files loader yaml names) (ReadUnguarded files yaml names) := by
  rw [readSettings]
  split
  · next hname =>
      have hnone : ∀ x, ¬ ReadUnguarded files yaml names x := by
        intro x hx
        cases hx with
        | unreadable h => cases h.symm.trans hname
        | encoding h => cases h.symm.trans hname
        | text h => cases h.symm.trans hname
      split
      · exact .reported _
      · split
        · exact .reported _
        · exact .ok _ hnone
  · next hname =>
      have hname := Bool.eq_false_iff.2 hname
      split
      · next e htext =>
          cases e with
          | file e => exact .unhandled (.unreadable hname htext)
          | encoding fault => exact .unhandled (.encoding hname htext)
      · next text htext =>
          have honly : ∀ x, ReadUnguarded files yaml names x →
              Text.isAllBlank text.toList = false ∧
                TextUnguarded files yaml names.dropLast text x := by
            intro x hx
            cases hx with
            | unreadable _ h => cases htext.symm.trans h
            | encoding _ h => cases htext.symm.trans h
            | text _ h hblank hx =>
                cases htext.symm.trans h
                exact ⟨hblank, hx⟩
          cases hblank : Text.isAllBlank text.toList with
          | true =>
              rw [readText, if_pos hblank]
              refine .ok _ fun x hx => ?_
              rw [(honly x hx).1] at hblank
              cases hblank
          | false =>
              exact (readText_letsThrough hyaml _ _ hblank).congr fun x =>
                ⟨.text hname htext hblank, fun hx => (honly x hx).2⟩

/-- Holds of the failures that a settings file lets through on the way to a configuration. -/
inductive FileUnguarded (files : Files) (loader : SetupLoader) (yaml : YamlLibrary)
    (names : List String) : Failure → Prop where
  | read {x : Failure} (h : ReadUnguarded files yaml names x) :
      FileUnguarded files loader yaml names x
  | settings {settings : Settings} {x : Failure}
      (hread : readSettings files loader yaml names = .ok settings)
      (h : SettingsUnguarded settings x) : FileUnguarded files loader yaml names x

theorem loadFile_letsThrough (files : Files) (loader : SetupLoader) {yaml : YamlLibrary}
    (hyaml : yaml.PassesOn) (names : List String) :
    LetsThrough (loadFile files loader yaml names).2 (FileUnguarded files loader yaml names) := by
  have heq : (loadFile files loader yaml names).2 =
      readSettings files loader yaml names >>= fun settings =>
        (build settings (files.absoluteText names.dropLast)).2 := by
    rw [loadFile]
    cases readSettings files loader yaml names <;> rfl
  rw [heq]
  refine ((readSettings_letsThrough files loader hyaml names).bind fun settings hread =>
    (build_letsThrough settings _).known hread).congr fun x => ⟨?_, fun hx => ?_⟩
  · rintro (hx | ⟨settings, hread, hx⟩)
    · exact .read hx
    · exact .settings hread hx
  · cases hx with
    | read hx => exact .inl hx
    | settings hread hx => exact .inr ⟨_, hread, hx⟩

/-- The settings file that a path leads to, by its names from the root: the file that stands there,
or the first choice in the directory. -/
inductive LeadsTo (files : Files) (path : Path) : List String → Prop where
  | file {trail : Files.Trail} {bytes : List UInt8} (h : files.locate path = .ok trail)
      (hfile : Files.here files.tree trail = .file bytes) :
      LeadsTo files path (Files.names trail)
  | directory {trail : Files.Trail} {entries : List (String × FileTree)} {names : List String}
      {node : FileTree} (h : files.locate path = .ok trail)
      (hdirectory : Files.here files.tree trail = .directory entries)
      (hfound : fileIn? (Files.names trail) entries = some (names, node)) :
      LeadsTo files path names

theorem LeadsTo.load_eq {files : Files} {path : Path} {names : List String}
    (h : LeadsTo files path names) (loader : SetupLoader) (yaml : YamlLibrary) :
    load files loader yaml path = loadFile files loader yaml names := by
  cases h with
  | file h hfile =>
      rw [load, h]
      dsimp only
      rw [hfile]
  | directory h hdirectory hfound =>
      rw [load, h]
      dsimp only
      rw [hdirectory]
      dsimp only
      rw [hfound]

theorem LeadsTo.unique {files : Files} {path : Path} {names names' : List String}
    (h : LeadsTo files path names) (h' : LeadsTo files path names') : names = names' := by
  cases h with
  | file h hfile =>
      cases h' with
      | file h' =>
          cases h.symm.trans h'
          rfl
      | directory h' hdirectory =>
          cases h.symm.trans h'
          exact nomatch hfile.symm.trans hdirectory
  | directory h hdirectory hfound =>
      cases h' with
      | file h' hfile =>
          cases h.symm.trans h'
          exact nomatch hdirectory.symm.trans hfile
      | directory h' hdirectory' hfound' =>
          cases h.symm.trans h'
          cases hdirectory.symm.trans hdirectory'
          cases hfound.symm.trans hfound'
          rfl

/-- Holds of the failures that a path lets through: it begins in a home directory that cannot be
told, it is too long, or it leads to a settings file that lets them through. -/
inductive Unguarded (files : Files) (loader : SetupLoader) (yaml : YamlLibrary) (path : Path) :
    Failure → Prop where
  | home {fault : HomeFault} (h : files.expand path = .error fault) :
      Unguarded files loader yaml path fault.failure
  | path {place : Path} {fault : FileFault} (h : files.expand path = .ok place)
      (hfind : files.find place = .error fault) (hfault : fault.meansAbsent = false) :
      Unguarded files loader yaml path (FileError.failure ⟨fault, place.text⟩)
  | file {names : List String} {x : Failure} (h : LeadsTo files path names)
      (hx : FileUnguarded files loader yaml names x) : Unguarded files loader yaml path x

theorem Unguarded.exists_leadsTo {files : Files} {loader : SetupLoader} {yaml : YamlLibrary}
    {path : Path} {trail : Files.Trail} (h : files.locate path = .ok trail) {x : Failure}
    (hx : Unguarded files loader yaml path x) :
    ∃ names, LeadsTo files path names ∧ FileUnguarded files loader yaml names x := by
  rw [Files.locate] at h
  cases hx with
  | home hexpand =>
      rw [hexpand] at h
      cases h
  | path hexpand hfind =>
      rw [hexpand] at h
      dsimp only at h
      rw [hfind] at h
      cases h
  | file hleads hx => exact ⟨_, hleads, hx⟩

theorem loadFile_letsThrough_of_leadsTo {files : Files} {path : Path} {names : List String}
    (h : LeadsTo files path names) {trail : Files.Trail} (hlocate : files.locate path = .ok trail)
    (loader : SetupLoader) {yaml : YamlLibrary} (hyaml : yaml.PassesOn) :
    LetsThrough (loadFile files loader yaml names).2 (Unguarded files loader yaml path) := by
  refine (loadFile_letsThrough files loader hyaml names).congr fun x => ⟨.file h, fun hx => ?_⟩
  obtain ⟨names', h', hx⟩ := hx.exists_leadsTo hlocate
  rw [h.unique h']
  exact hx

theorem lostError_letsThrough {files : Files} {loader : SetupLoader} {yaml : YamlLibrary}
    {path : Path} {lost : Lost} (h : files.locate path = .error lost) :
    LetsThrough (.error (lostError lost) : Except LoadError Built)
      (Unguarded files loader yaml path) := by
  rw [Files.locate] at h
  split at h
  · next fault hexpand =>
      cases h
      exact .unhandled (.home hexpand)
  · next place hexpand =>
      cases hfind : files.find place with
      | ok trail =>
          rw [hfind] at h
          cases h
      | error fault =>
          rw [hfind] at h
          cases h
          rw [lostError]
          split
          · exact .reported _
          · next hfault => exact .unhandled (.path hexpand hfind (Bool.eq_false_iff.2 hfault))

theorem load_letsThrough (files : Files) (loader : SetupLoader) {yaml : YamlLibrary}
    (hyaml : yaml.PassesOn) (path : Path) :
    LetsThrough (load files loader yaml path).2 (Unguarded files loader yaml path) := by
  cases hlocate : files.locate path with
  | error lost =>
      rw [load, hlocate]
      exact lostError_letsThrough hlocate
  | ok trail =>
      cases hhere : Files.here files.tree trail with
      | file bytes =>
          have hleads : LeadsTo files path (Files.names trail) := .file hlocate hhere
          rw [hleads.load_eq]
          exact loadFile_letsThrough_of_leadsTo hleads hlocate loader hyaml
      | directory entries =>
          cases hfound : fileIn? (Files.names trail) entries with
          | some found =>
              have hleads : LeadsTo files path found.1 := .directory hlocate hhere hfound
              rw [hleads.load_eq]
              exact loadFile_letsThrough_of_leadsTo hleads hlocate loader hyaml
          | none =>
              rw [load, hlocate]
              dsimp only
              rw [hhere]
              dsimp only
              rw [hfound]
              refine .ok _ fun x hx => ?_
              obtain ⟨names, hleads, -⟩ := hx.exists_leadsTo hlocate
              cases hleads with
              | file h hfile =>
                  cases hlocate.symm.trans h
                  cases hhere.symm.trans hfile
              | directory h hdirectory hsome =>
                  cases hlocate.symm.trans h
                  cases hhere.symm.trans hdirectory
                  cases hfound.symm.trans hsome

end Config

/-! ## A directory with one settings file -/

/-- A working directory with one file in it. -/
def Files.holding (name : String) (bytes : List UInt8) : Files :=
  { base := "/w", tree := .directory [(name, .file bytes)] }

theorem Config.leadsTo_holding {name : String} (hname : name ∈ fileNames) (bytes : List UInt8) :
    LeadsTo (.holding name bytes) (Path.ofString "") [name] := by
  have hpath : Path.ofString "" = ⟨0, []⟩ := by decide +kernel
  have hfault : Files.pathFault? ⟨0, []⟩ = none := by decide +kernel
  have hlocate : (Files.holding name bytes).locate (Path.ofString "") = .ok [] := by
    have hexpand : (Files.holding name bytes).expand ⟨0, []⟩ = .ok ⟨0, []⟩ := rfl
    rw [hpath, Files.locate, hexpand]
    dsimp only
    rw [Files.find, hfault]
    rfl
  have hfound : fileIn? [] [(name, .file bytes)] = some ([name], .file bytes) := by
    simp only [fileNames, List.mem_cons, List.not_mem_nil, or_false] at hname
    rcases hname with rfl | rfl | rfl <;> simp [fileIn?, fileNames]
  exact .directory hlocate rfl hfound

/-- The service over files, with an engine that does nothing. -/
def Service.App.idle (files : Files) (setups : Config.SetupLoader) (yaml : Config.YamlLibrary) :
    App Unit where
  surroundings := {
    files := files
    setups := setups
    yaml := yaml
    terminal := Terminal.library
    engine := fun _ => ⟨fun code _ s => (.ok code, s), fun _ sandbox _ s => (.ok (), sandbox, s)⟩
    start := () }

/-! ## What becomes of a bad configuration -/

section

variable {σ : Type} (app : Service.App σ) (s : Command.Surroundings σ)
  (o : Command.RunOptions) (r : Service.RunRequest)

theorem Command.runAmong_of_config {e : ConfigError}
    (h : (Config.load s.files s.setups s.yaml (configPath o.config)).2 = .error (.config e)) :
    ∃ records, runAmong s s.files o = .ok (endedBy s o records e.message) := by
  rw [runAmong]
  generalize Config.load s.files s.setups s.yaml (configPath o.config) = loaded at h ⊢
  obtain ⟨records, result⟩ := loaded
  cases h
  exact ⟨records, rfl⟩

theorem Command.runAmong_of_unhandled {x : Failure}
    (h : (Config.load s.files s.setups s.yaml (configPath o.config)).2 = .error (.unhandled x)) :
    runAmong s s.files o = .error x := by
  rw [runAmong]
  generalize Config.load s.files s.setups s.yaml (configPath o.config) = loaded at h ⊢
  obtain ⟨records, result⟩ := loaded
  cases h
  rfl

theorem Service.run_of_config {e : ConfigError}
    (h : (Config.load app.surroundings.files app.surroundings.setups app.surroundings.yaml
      (Path.ofString (r.configPath.getD ""))).2 = .error (.config e)) :
    run app r = .ok (refused 400 e.message) := by
  rw [run, h]

theorem Service.run_of_unhandled {x : Failure}
    (h : (Config.load app.surroundings.files app.surroundings.setups app.surroundings.yaml
      (Path.ofString (r.configPath.getD ""))).2 = .error (.unhandled x)) :
    run app r = failureAnswer x := by
  rw [run, h]

theorem Service.failureAnswer_status_ne {x : Failure} {answer : Answer}
    (h : failureAnswer x = .ok answer) : answer.status ≠ 400 := by
  rw [failureAnswer] at h
  split at h
  · cases h
    exact (by decide : (404 : Nat) ≠ 400)
  · split at h
    · cases h
      exact (by decide : (500 : Nat) ≠ 400)
    · cases h

end

/-- The settings of a text that says of one module in which file it is, and of a text with a bracket
that is not closed. -/
def Config.oneModule : YamlLibrary where
  load := fun made text =>
    if text = "[" then .error (.malformed "expected the node content, but found '<stream end>'")
    else ((made .moduleFile "m.js").mapError .own).map fun module =>
      .map [(.text "require", .map [(.text "m", module)])]

theorem Config.passesOn_oneModule : oneModule.PassesOn := by
  intro made text e h
  rw [oneModule] at h
  dsimp only at h
  split at h
  · cases h
  · cases hmade : made .moduleFile "m.js" with
    | ok module =>
        rw [hmade] at h
        cases h
    | error e' =>
        rw [hmade] at h
        cases h
        exact ⟨.moduleFile, "m.js", hmade⟩

/-- The text of a settings file that names a module file. -/
def Config.moduleSettings : String := "require: \x7bm: !js-file m.js\x7d\n"

end DocExamples
