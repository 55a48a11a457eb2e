import TenantLoad.Config.Load
import TenantLoad.Proofs.Config.Environment

/-!
# Layers of settings

Settings that are loaded have their values from the environment, from the file
where the environment has none, and from the defaults where neither has one.
They are loaded unless the file cannot be used, a variable is faulty or what the
two layers give together is out of bounds.
-/

namespace TenantLoad
namespace Config

/-- The content of a file that no settings can be read from. -/
inductive IsUnusable : FileContent → Prop
  | unreadable (reason : String) : IsUnusable (.error reason)
  | notText {bytes : ByteArray} (undecoded : String.fromUTF8? bytes = none) :
    IsUnusable (.ok bytes)
  | malformed {bytes : ByteArray} {text : String} (decoded : String.fromUTF8? bytes = some text)
    (unread : ofText? text = none) : IsUnusable (.ok bytes)

/-- The data of the document that the content of a file is. -/
def contentData? : FileContent → Option Yaml.Located
  | .error _ => none
  | .ok bytes => do
    let root ← Yaml.Document.parse? (← String.fromUTF8? bytes)
    return ⟨root, root⟩

namespace Setting

/-- The value that a file gives to a setting, if there is a file and it gives
one. -/
def inFile? (setting : Setting) (file : Option FileContent) : Option setting.Value :=
  (file.bind contentData?).bind setting.inData?

/-- The value of a setting by the environment, the file and the defaults. -/
def loaded (setting : Setting) (file : Option FileContent) (environment : Environment) :
    setting.Value :=
  ((setting.inEnvironment? environment).or (setting.inFile? file)).getD setting.default

end Setting

/-- The settings of a file and the environment, whether the two can be used or
not. -/
def layered (file : Option FileContent) (environment : Environment) : Config :=
  Setting.gather fun setting => setting.loaded file environment

variable {file : Option FileContent} {environment : Environment} {config : Config}

theorem ofFile_of_decoded
    {bytes : ByteArray}
    {text : String}
    (decoded : String.fromUTF8? bytes = some text) :
    ofFile (some (.ok bytes)) =
      match ofText? text with
      | some config => .ok config
      | none => .error .malformed := by
  simp only [ofFile, decode, decoded]
  rfl

/-- A file that can be used is a document that settings are read from. -/
theorem ofFile_cases
    (content : FileContent) :
    (IsUnusable content ∧ ∃ error, ofFile (some content) = .error error) ∨
      ∃ data config, ¬IsUnusable content ∧ contentData? content = some data ∧
        read? data = some config ∧ ofFile (some content) = .ok config := by
  cases content with
  | error reason => exact .inl ⟨.unreadable reason, _, rfl⟩
  | ok bytes =>
      cases decoded : String.fromUTF8? bytes with
      | none =>
          refine .inl ⟨.notText decoded, .unreadable encodingFault, ?_⟩
          simp only [ofFile, decode, decoded]
          rfl
      | some text =>
          have fromText := ofFile_of_decoded decoded
          cases isRead : ofText? text with
          | none =>
              rw [isRead] at fromText
              exact .inl ⟨.malformed decoded isRead, .malformed, fromText⟩
          | some config =>
              rw [isRead] at fromText
              obtain ⟨root, isRoot, isRecord⟩ := Option.bind_eq_some_iff.mp isRead
              refine .inr ⟨⟨root, root⟩, config, ?_, ?_, isRecord, fromText⟩
              · rintro (_ | undecoded | ⟨redecoded, unread⟩)
                · simp [decoded] at undecoded
                · cases decoded.symm.trans redecoded
                  simp [isRead] at unread
              · simp [contentData?, decoded, isRoot]

/-- A file gives settings if it can be used, or if there is none. -/
theorem ofFile_eq_ok_iff :
    ofFile file = .ok config ↔
      (¬∃ content, file = some content ∧ IsUnusable content) ∧
        ∀ setting : Setting, setting.get config = (setting.inFile? file).getD setting.default := by
  rw [← Setting.gather_eq_iff]
  cases file with
  | none => simp [ofFile, Setting.inFile?, Setting.default]
  | some content =>
      obtain ⟨isUnusable, error, fails⟩ | ⟨data, own, isUsable, isData, isRead, succeeds⟩ :=
        ofFile_cases content
      · simp [fails, isUnusable]
      · have values : (Setting.gather fun setting =>
            (setting.inFile? (some content)).getD setting.default) = own := by
          rw [Setting.gather_eq_iff]
          intro setting
          simp [Setting.inFile?, isData, get_of_read? isRead]
        simp [succeeds, isUsable, values]

/-- The two layers give settings, whether within bounds or not, unless one of
them cannot be used. -/
theorem assemble_eq_ok_iff :
    assemble file environment = .ok config ↔
      (¬∃ content, file = some content ∧ IsUnusable content) ∧
        (¬∃ setting : Setting, setting.IsFaulty environment) ∧
        layered file environment = config := by
  simp only [assemble, Except.bind_eq_ok_iff, ofFile_eq_ok_iff, Environment.override_eq_ok_iff,
    layered, Setting.gather_eq_iff, Setting.loaded, Option.getD_or]
  constructor
  · rintro ⟨own, ⟨isUsable, ofFile⟩, faultless, values⟩
    refine ⟨isUsable, faultless, fun setting => ?_⟩
    rw [values setting, ofFile setting]
  · rintro ⟨isUsable, faultless, values⟩
    exact ⟨Setting.gather fun setting => (setting.inFile? file).getD setting.default,
      ⟨isUsable, Setting.get_gather⟩, faultless, by simpa using values⟩

/-- Settings are loaded if they can be read and are within bounds. -/
theorem load_eq_ok_iff
    {isDirectory : String → Bool} :
    load isDirectory file environment = .ok config ↔
      (¬∃ content, file = some content ∧ IsUnusable content) ∧
        (¬∃ setting : Setting, setting.IsFaulty environment) ∧
        layered file environment = config ∧ config.validate isDirectory = .ok () := by
  simp only [load, Except.bind_eq_ok_iff, assemble_eq_ok_iff, Except.pure_eq_ok_iff]
  constructor
  · rintro ⟨_, ⟨isUsable, faultless, rfl⟩, ⟨⟩, isValid, rfl⟩
    exact ⟨isUsable, faultless, rfl, isValid⟩
  · rintro ⟨isUsable, faultless, rfl, isValid⟩
    exact ⟨_, ⟨isUsable, faultless, rfl⟩, (), isValid, rfl⟩

theorem assemble_of_load
    {isDirectory : String → Bool}
    (loads : load isDirectory file environment = .ok config) :
    assemble file environment = .ok config := by
  obtain ⟨isUsable, faultless, isLayered, -⟩ := load_eq_ok_iff.mp loads
  exact assemble_eq_ok_iff.mpr ⟨isUsable, faultless, isLayered⟩

variable {isDirectory isDirectoryToo : String → Bool}

/-- No path but that of the output is looked at. -/
theorem validate_congr
    (same : ∀ path, config.output.path = some path → isDirectory path = isDirectoryToo path) :
    config.validate isDirectory = config.validate isDirectoryToo := by
  have output : config.output.validate isDirectory = config.output.validate isDirectoryToo := by
    unfold Output.validate
    cases isPath : config.output.path with
    | none => rfl
    | some path => simp only [same path isPath]
  simp only [validate, output]

theorem load_congr
    (same : ∀ path loaded, assemble file environment = .ok loaded → loaded.output.path = some path →
      isDirectory path = isDirectoryToo path) :
    load isDirectory file environment = load isDirectoryToo file environment := by
  unfold load
  cases assembled : assemble file environment with
  | error error => rfl
  | ok loaded =>
      have valid := validate_congr fun path isPath => same path loaded assembled isPath
      simp only [bind, Except.bind, valid]

end Config
end TenantLoad
