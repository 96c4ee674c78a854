import Gatehouse.Proofs.Json.Records
import Gatehouse.Proofs.Text.Trimming
import Gatehouse.Proofs.Text.Unsigned
import Gatehouse.Server.Config
/-!
Where the settings of a server come from.

A file may set some of the settings and leave out others, and what it sets is told by
`Settings.read`. Flags may set some of them too, and a variable may have the text of a port:

    port                  the variable's, else the flag's, else the file's, else the default
    host, rules path      the flag's, else the file's, else the default
    body limit, origins   the file's, else the default                      (resolve_eq_ok_iff)

There is no configuration if the file is at fault, or else if the variable has no port, and this
is what is told (`resolve_eq_error_iff`).
-/

namespace Gatehouse

namespace Server

/-! ## What a file sets -/

/-- What a written configuration sets. -/
structure Settings where
  host : Option String
  port : Option Nat
  rulesPath : Option String
  bodyLimit : Option Nat
  origins : Option (List String)
  deriving Repr, DecidableEq

namespace Settings

/-- Nothing is set. -/
def nothing : Settings :=
  ⟨none, none, none, none, none⟩

/-- The configuration with what is set. -/
def overlay (settings : Settings) (config : Config) : Config where
  host := settings.host.getD config.host
  port := settings.port.getD config.port
  rulesPath := settings.rulesPath.getD config.rulesPath
  bodyLimit := settings.bodyLimit.getD config.bodyLimit
  origins := settings.origins.getD config.origins

/-- The fields of a written configuration, each read into the setting that it is. -/
def fields : List (Json.FieldReader Settings) :=
  [⟨"host", fun s =>
      Json.mapRead (fun host => { s with host := some host }) (Json.readText "a string")⟩,
    ⟨"port", fun s =>
      Json.mapRead (fun port => { s with port := some port }) (Json.readUnsigned "u16" maxPort)⟩,
    ⟨"rules_path", fun s =>
      Json.mapRead (fun path => { s with rulesPath := some path }) (Json.readText "path string")⟩,
    ⟨"body_limit_bytes", fun s =>
      Json.mapRead (fun n => { s with bodyLimit := some n }) (Json.readUnsigned "usize" maxSize)⟩,
    ⟨"cors_origins", fun s =>
      Json.mapRead (fun origins => { s with origins := some origins }) Json.readTexts⟩]

/-- Reads what a written configuration sets. -/
def read : Json.Reader Settings :=
  Json.readRecord "struct ServerConfig" fields nothing

/-- Each field is read over the defaults as it is read by itself. -/
theorem fields_follow :
    List.Forall₂ (Json.FieldReader.Follows fun s => s.overlay .default) fields Config.fields :=
  .cons (.of_set (fun _ _ => rfl) _ _) <|
  .cons (.of_set (fun _ _ => rfl) _ _) <|
  .cons (.of_set (fun _ _ => rfl) _ _) <|
  .cons (.of_set (fun _ _ => rfl) _ _) <|
  .cons (.of_set (fun _ _ => rfl) _ _) .nil

end Settings

/-- A text names a port: it is a number in range, with blanks around it. -/
def NamesPort (text : String) (n : Nat) : Prop :=
  ∃ front cs back, text.toList = front ++ (cs ++ back) ∧ (∀ c ∈ front, Text.isBlank c = true) ∧
    (∀ c ∈ back, Text.isBlank c = true) ∧ Ascii.Denotes cs n ∧ n ≤ maxPort

/-- The text of a file, or why it cannot be read. -/
def textOf (source : Files.Source Id) (path : String) : Except Files.ReadError String :=
  source.readText path

/-- The text of a file is a written configuration that sets something. -/
def Describes (source : Files.Source Id) (path : String) (settings : Settings) : Prop :=
  ∃ text, textOf source path = .ok text ∧
    Json.readAll Settings.read (Utf8.encode text) = .ok settings

/-- What is set by a file, if there is one. -/
inductive Gives (source : Files.Source Id) : Option String → Settings → Prop
  | nothing : Gives source none .nothing
  | file {path : String} {settings : Settings} : Describes source path settings →
      settings.bodyLimit ≠ some 0 → Gives source (some path) settings

/-- What is wrong with a file. -/
inductive FileFault (source : Files.Source Id) : Option String → Config.Error → Prop
  | unreadable {path : String} {e : Files.ReadError} : textOf source path = .error e →
      FileFault source (some path) (.unreadable path e)
  | malformed {path text : String} {e : Json.Error} : textOf source path = .ok text →
      Json.readAll Settings.read (Utf8.encode text) = .error e →
      FileFault source (some path) (.malformed path e)
  | zeroBodyLimit {path : String} {settings : Settings} : Describes source path settings →
      settings.bodyLimit = some 0 → FileFault source (some path) .zeroBodyLimit

/-- The port that a variable has, if it is set. -/
inductive PortGiven : Option String → Option Nat → Prop
  | unset : PortGiven none none
  | set {text : String} {n : Nat} : NamesPort text n → PortGiven (some text) (some n)

/-- Why there is no configuration: what is wrong with the file, or else that the variable has no
port. -/
inductive Unresolved (source : Files.Source Id) (path : Option String) :
    Option String → Config.Error → Prop
  | file {port : Option String} {e : Config.Error} : FileFault source path e →
      Unresolved source path port e
  | port {text : String} {settings : Settings} : Gives source path settings →
      (∀ n, ¬NamesPort text n) → Unresolved source path (some text) (.invalidPort text)

namespace Config

/-- The configuration of a variable with a port, of flags and of a file, in this order. -/
def settled (port : Option Nat) (overrides : Overrides) (settings : Settings) : Config where
  host := (overrides.host.or settings.host).getD default.host
  port := (port.or (overrides.port.or settings.port)).getD default.port
  rulesPath := (overrides.rulesPath.or settings.rulesPath).getD default.rulesPath
  bodyLimit := settings.bodyLimit.getD default.bodyLimit
  origins := settings.origins.getD default.origins

/-! ## Lemmas: the variable -/

theorem portOf?_eq_some_iff {text : String} {n : Nat} :
    portOf? text = some n ↔ NamesPort text n := by
  unfold portOf?
  rw [Ascii.unsigned?_eq_some_iff]
  exact Text.trim_iff_exists (P := fun cs => Ascii.Denotes cs n ∧ n ≤ maxPort) fun _ hcs =>
    ⟨hcs.1.ne_nil, hcs.1.not_isBlank⟩

theorem portOf?_eq_none_iff {text : String} : portOf? text = none ↔ ∀ n, ¬NamesPort text n := by
  rw [Option.eq_none_iff_forall_ne_some]
  simp only [ne_eq, portOf?_eq_some_iff]

theorem withPort_eq_ok_iff {config config' : Config} {port : Option String} :
    config.withPort port = .ok config' ↔
      ∃ given, PortGiven port given ∧ config' = { config with port := given.getD config.port } := by
  unfold withPort
  constructor
  · intro h
    split at h
    · obtain rfl := Except.ok.inj h
      exact ⟨none, .unset, rfl⟩
    · split at h
      · cases h
      · next n hport =>
        obtain rfl := Except.ok.inj h
        exact ⟨some n, .set (portOf?_eq_some_iff.mp hport), rfl⟩
  · rintro ⟨given, hgiven, rfl⟩
    cases hgiven with
    | unset => rfl
    | set hnames =>
      simp only [portOf?_eq_some_iff.mpr hnames]
      rfl

theorem withPort_eq_error_iff {config : Config} {port : Option String} {e : Error} :
    config.withPort port = .error e ↔
      ∃ text, port = some text ∧ (∀ n, ¬NamesPort text n) ∧ e = .invalidPort text := by
  unfold withPort
  constructor
  · intro h
    split at h
    · cases h
    · next text =>
      split at h
      · next hport =>
        obtain rfl := Except.error.inj h
        exact ⟨text, rfl, portOf?_eq_none_iff.mp hport, rfl⟩
      · cases h
  · rintro ⟨text, rfl, hnone, rfl⟩
    simp only [portOf?_eq_none_iff.mpr hnone]

/-! ## Lemmas: the file -/

theorem read_eq_mapRead : read = Json.mapRead (fun s => s.overlay .default) Settings.read :=
  Json.readRecord_follows Settings.fields_follow "struct ServerConfig" .nothing

/-- A text is a configuration as it is read by its settings. -/
theorem parse_eq (path text : String) :
    parse path text =
      match Json.readAll Settings.read (Utf8.encode text) with
      | .error e => .error (.malformed path e)
      | .ok settings =>
        if settings.bodyLimit = some 0 then .error .zeroBodyLimit
        else .ok (settings.overlay .default) := by
  unfold parse
  rw [read_eq_mapRead, Json.readAll_mapRead]
  cases Json.readAll Settings.read (Utf8.encode text) with
  | error e => rfl
  | ok settings =>
    have hzero : (settings.overlay default).bodyLimit = 0 ↔ settings.bodyLimit = some 0 := by
      unfold Settings.overlay
      cases settings.bodyLimit with
      | none => simp [default]
      | some n => simp
    simp only [Except.map, hzero]

/-- The configuration of a file, or the defaults without one. -/
def ofFile (source : Files.Source Id) : Option String → Except Error Config
  | none => .ok default
  | some path => load source path

theorem load_eq (source : Files.Source Id) (path : String) :
    ofFile source (some path) =
      match textOf source path with
      | .error e => .error (.unreadable path e)
      | .ok text => parse path text := by
  have htext : textOf source path = source.readText path := rfl
  have hload : ofFile source (some path) = load source path := rfl
  rw [htext, hload]
  unfold load
  cases source.readText path <;> rfl

theorem ofFile_eq_ok_iff {source : Files.Source Id} {path : Option String} {config : Config} :
    ofFile source path = .ok config ↔
      ∃ settings, Gives source path settings ∧ config = settings.overlay default := by
  cases path with
  | none =>
    constructor
    · intro h
      exact ⟨.nothing, .nothing, (Except.ok.inj h).symm⟩
    · rintro ⟨settings, ⟨⟩, rfl⟩
      rfl
  | some path =>
    rw [load_eq]
    constructor
    · intro h
      split at h
      · cases h
      · next text htext =>
        rw [parse_eq] at h
        split at h
        · cases h
        · next settings hread =>
          split at h
          · cases h
          · next hlimit =>
            exact ⟨settings, .file ⟨text, htext, hread⟩ hlimit, (Except.ok.inj h).symm⟩
    · rintro ⟨settings, hgives, rfl⟩
      cases hgives with
      | file hdescribes hlimit =>
        obtain ⟨text, htext, hread⟩ := hdescribes
        simp only [htext, parse_eq, hread, if_neg hlimit]

theorem ofFile_eq_error_iff {source : Files.Source Id} {path : Option String} {e : Error} :
    ofFile source path = .error e ↔ FileFault source path e := by
  cases path with
  | none => exact ⟨nofun, nofun⟩
  | some path =>
    rw [load_eq]
    constructor
    · intro h
      split at h
      · next htext =>
        obtain rfl := Except.error.inj h
        exact .unreadable htext
      · next text htext =>
        rw [parse_eq] at h
        split at h
        · next hread =>
          obtain rfl := Except.error.inj h
          exact .malformed htext hread
        · next settings hread =>
          split at h
          · next hlimit =>
            obtain rfl := Except.error.inj h
            exact .zeroBodyLimit ⟨text, htext, hread⟩ hlimit
          · cases h
    · intro h
      cases h with
      | unreadable htext => simp only [htext]
      | malformed htext hread => simp only [htext, parse_eq, hread]
      | zeroBodyLimit hdescribes hlimit =>
        obtain ⟨text, htext, hread⟩ := hdescribes
        simp only [htext, parse_eq, hread, if_pos hlimit]

/-! ## The configuration -/

theorem resolve_eq (source : Files.Source Id) (path : Option String) (overrides : Overrides)
    (port : Option String) :
    resolve source path overrides port =
      (match ofFile source path with
      | .error e => .error e
      | .ok config => (config.override overrides).withPort port : Except Error Config) := by
  cases path with
  | none => rfl
  | some path =>
    have hload : ofFile source (some path) = load source path := rfl
    rw [hload]
    unfold resolve
    dsimp only
    cases load source path <;> rfl

/-- What is set is over the defaults, and the flags and the variable over this. -/
theorem settled_eq (port : Option Nat) (overrides : Overrides) (settings : Settings) :
    settled port overrides settings =
      { (settings.overlay default).override overrides with
        port := port.getD ((settings.overlay default).override overrides).port } := by
  simp only [settled, override, Settings.overlay, Option.getD_or]

/-- **A configuration is settled** by the variable, the flags, the file and the defaults. -/
theorem resolve_eq_ok_iff {source : Files.Source Id} {path : Option String} {overrides : Overrides}
    {port : Option String} {config : Config} :
    resolve source path overrides port = (.ok config : Except Error Config) ↔
      ∃ settings given, Gives source path settings ∧ PortGiven port given ∧
        config = settled given overrides settings := by
  rw [resolve_eq]
  constructor
  · intro h
    split at h
    · cases h
    · next hfile =>
      obtain ⟨settings, hgives, rfl⟩ := ofFile_eq_ok_iff.mp hfile
      obtain ⟨given, hgiven, rfl⟩ := withPort_eq_ok_iff.mp h
      exact ⟨settings, given, hgives, hgiven, (settled_eq given overrides settings).symm⟩
  · rintro ⟨settings, given, hgives, hgiven, rfl⟩
    simp only [ofFile_eq_ok_iff.mpr ⟨settings, hgives, rfl⟩]
    exact withPort_eq_ok_iff.mpr ⟨given, hgiven, settled_eq given overrides settings⟩

/-- **There is no configuration** if the file is at fault, or else if the variable has no port. -/
theorem resolve_eq_error_iff {source : Files.Source Id} {path : Option String}
    {overrides : Overrides} {port : Option String} {e : Error} :
    resolve source path overrides port = (.error e : Except Error Config) ↔
      Unresolved source path port e := by
  rw [resolve_eq]
  constructor
  · intro h
    split at h
    · next hfile =>
      obtain rfl := Except.error.inj h
      exact .file (ofFile_eq_error_iff.mp hfile)
    · next hfile =>
      obtain ⟨settings, hgives, -⟩ := ofFile_eq_ok_iff.mp hfile
      obtain ⟨text, rfl, hnone, rfl⟩ := withPort_eq_error_iff.mp h
      exact .port hgives hnone
  · intro h
    cases h with
    | file hfault => simp only [ofFile_eq_error_iff.mpr hfault]
    | port hgives hnone =>
      simp only [ofFile_eq_ok_iff.mpr ⟨_, hgives, rfl⟩]
      exact withPort_eq_error_iff.mpr ⟨_, rfl, hnone, rfl⟩

end Config

/-- A limit that is set is not zero, and nor is the default. -/
theorem Gives.one_le_bodyLimit {source : Files.Source Id} {path : Option String}
    {settings : Settings} (h : Gives source path settings) (port : Option Nat)
    (overrides : Config.Overrides) : 1 ≤ (Config.settled port overrides settings).bodyLimit := by
  have hlimit : settings.bodyLimit ≠ some 0 := by
    cases h with
    | nothing => exact fun h => nomatch h
    | file _ hlimit => exact hlimit
  unfold Config.settled
  cases hset : settings.bodyLimit with
  | none => exact (by decide : 1 ≤ Config.default.bodyLimit)
  | some n =>
    show 1 ≤ n
    exact Nat.one_le_iff_ne_zero.mpr fun hzero => hlimit (hzero ▸ hset)

end Server

end Gatehouse
