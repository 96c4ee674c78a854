import Gatehouse.Proofs.Command.CheckStory
import Gatehouse.Proofs.Http.GatewayCheck
import Gatehouse.Proofs.Server.Precedence
/-!
How a server starts.

It needs a configuration, a table, a gateway and an address, which are asked for in this order, and
it serves only if it has them all. The first that is missing settles how it ends:

    no configuration                ROUTEGUARD_CONFIG_ERROR
    no table at its rules path      ROUTEGUARD_RULES_ERROR
    no gateway                      stuck, and no code is told
    no address in host and port     ROUTEGUARD_SERVER_FAILED                (serve_startup)

There is no gateway iff the origins hold `*`. So with such origins a server does not serve, and that
its address is none is not told (`stuck_starred`).
-/

namespace Gatehouse.Command

open Http (Gateway)
open Server (Config Settings Gives PortGiven Unresolved)
open Server.Address (isSocketAddress)

/-- A server does not start, and this is why, with the code that it is told by. -/
inductive StartFails (source : Files.Source Id) (resolved : Except Config.Error Config) :
    ErrorCode → Error → Prop
  | config {e : Config.Error} : resolved = .error e → StartFails source resolved .config (.config e)
  | rules {config : Config} {e : Rules.Error} : resolved = .ok config →
      tableOf source config.rulesPath = .error e → StartFails source resolved .rules (.rules e)
  | address {config : Config} {table : Rules.Table} : resolved = .ok config →
      tableOf source config.rulesPath = .ok table → "*" ∉ config.origins →
      isSocketAddress config.address = false →
      StartFails source resolved .server (.address config.address)

/-! ## Lemmas: a configuration and a table -/

section

variable {config : Config} {table : Rules.Table}

theorem start_eq_stuck_iff {config' : Config} :
    start config table = .stuck config' ↔ config' = config ∧ "*" ∈ config.origins := by
  rw [← Gateway.ofConfig?_eq_none_iff config table]
  unfold start
  cases Gateway.ofConfig? config table with
  | none => simp [eq_comm]
  | some gateway =>
    dsimp only
    split <;> simp

theorem start_eq_serving_iff {config' : Config} {gateway : Gateway} :
    start config table = .serving config' gateway ↔ config' = config ∧
      Gateway.ofConfig? config table = some gateway ∧ isSocketAddress config.address = true := by
  unfold start
  cases Gateway.ofConfig? config table with
  | none => simp
  | some gateway' =>
    dsimp only
    split
    · next haddress => simp [haddress, eq_comm]
    · next haddress => simp [haddress]

theorem start_eq_failed_iff {e : Error} :
    start config table = .failed e ↔ "*" ∉ config.origins ∧
      isSocketAddress config.address = false ∧ e = .address config.address := by
  rw [← Gateway.ofConfig?_eq_none_iff config table]
  unfold start
  cases Gateway.ofConfig? config table with
  | none => simp
  | some gateway =>
    dsimp only
    split
    · next haddress => simp [haddress]
    · next haddress => simp [haddress, eq_comm]

end

/-! ## Lemmas: the run -/

/-- All ways that the start of a server can end, by what is resolved and what is loaded. -/
inductive StartCourse (source : Files.Source Id) (resolved : Except Config.Error Config) :
    Ending → Prop
  | unresolved {e : Config.Error} : resolved = .error e →
      StartCourse source resolved (.failed (.config e))
  | unloaded {config : Config} {e : Rules.Error} : resolved = .ok config →
      tableOf source config.rulesPath = .error e → StartCourse source resolved (.failed (.rules e))
  | started {config : Config} {table : Rules.Table} : resolved = .ok config →
      tableOf source config.rulesPath = .ok table →
      StartCourse source resolved (start config table)

theorem run_serve (source : Files.Source Id) (port path : Option String)
    (overrides : Config.Overrides) :
    Task.run source port (.serve path overrides) =
      (match (Config.resolve source path overrides port : Except Config.Error Config) with
      | .error e => Run.failed (.config e)
      | .ok config =>
        match tableOf source config.rulesPath with
        | .error e => Run.failed (.rules e)
        | .ok table => runServer config table : Run) := by
  unfold Task.run
  dsimp only
  cases (Config.resolve source path overrides port : Except Config.Error Config) with
  | error e => rfl
  | ok config => exact withTable_eq source config.rulesPath (runServer config)

theorem course_serve (source : Files.Source Id) (port path : Option String)
    (overrides : Config.Overrides) :
    StartCourse source (Config.resolve source path overrides port)
      (Run.ending (Task.run source port (.serve path overrides))) := by
  rw [run_serve]
  cases hresolved : (Config.resolve source path overrides port : Except Config.Error Config) with
  | error e => exact .unresolved rfl
  | ok config =>
    dsimp only
    cases htable : tableOf source config.rulesPath with
    | error e => exact .unloaded rfl htable
    | ok table => exact .started rfl htable

namespace StartCourse

variable {source : Files.Source Id} {resolved : Except Config.Error Config} {ending : Ending}
  (h : StartCourse source resolved ending)
include h

theorem ending_of_unresolved {e : Config.Error} (hconfig : resolved = .error e) :
    ending = .failed (.config e) := by
  cases h with
  | unresolved h => rw [Except.error.inj (h.symm.trans hconfig)]
  | unloaded h | started h => cases h.symm.trans hconfig

theorem ending_of_unloaded {config : Config} {e : Rules.Error} (hconfig : resolved = .ok config)
    (htable : tableOf source config.rulesPath = .error e) : ending = .failed (.rules e) := by
  cases h with
  | unresolved h => cases h.symm.trans hconfig
  | unloaded h h' =>
    obtain rfl := Except.ok.inj (h.symm.trans hconfig)
    rw [Except.error.inj (h'.symm.trans htable)]
  | started h h' =>
    obtain rfl := Except.ok.inj (h.symm.trans hconfig)
    cases h'.symm.trans htable

/-- With a configuration and a table, they decide. -/
theorem ending_eq {config : Config} {table : Rules.Table} (hconfig : resolved = .ok config)
    (htable : tableOf source config.rulesPath = .ok table) : ending = start config table := by
  cases h with
  | unresolved h => cases h.symm.trans hconfig
  | unloaded h h' =>
    obtain rfl := Except.ok.inj (h.symm.trans hconfig)
    cases h'.symm.trans htable
  | started h h' =>
    obtain rfl := Except.ok.inj (h.symm.trans hconfig)
    obtain rfl := Except.ok.inj (h'.symm.trans htable)
    rfl

theorem serving_iff {config : Config} {gateway : Gateway} :
    ending = .serving config gateway ↔ resolved = .ok config ∧ ∃ table,
      tableOf source config.rulesPath = .ok table ∧
      Gateway.ofConfig? config table = some gateway ∧ isSocketAddress config.address = true := by
  constructor
  · intro hending
    cases h with
    | unresolved | unloaded => cases hending
    | started hconfig htable =>
      obtain ⟨rfl, hserving⟩ := start_eq_serving_iff.mp hending
      exact ⟨hconfig, _, htable, hserving⟩
  · rintro ⟨hconfig, table, htable, hserving⟩
    rw [h.ending_eq hconfig htable]
    exact start_eq_serving_iff.mpr ⟨rfl, hserving⟩

theorem fails_iff {code : ErrorCode} {e : Error} :
    (ending = .failed e ∧ e.code = code) ↔ StartFails source resolved code e := by
  constructor
  · rintro ⟨hending, rfl⟩
    cases h with
    | unresolved hconfig =>
      obtain rfl := Ending.failed.inj hending
      exact .config hconfig
    | unloaded hconfig htable =>
      obtain rfl := Ending.failed.inj hending
      exact .rules hconfig htable
    | started hconfig htable =>
      obtain ⟨hstar, haddress, rfl⟩ := start_eq_failed_iff.mp hending
      exact .address hconfig htable hstar haddress
  · intro hfails
    cases hfails with
    | config hconfig => exact ⟨h.ending_of_unresolved hconfig, rfl⟩
    | rules hconfig htable => exact ⟨h.ending_of_unloaded hconfig htable, rfl⟩
    | address hconfig htable hstar haddress =>
      rw [h.ending_eq hconfig htable]
      exact ⟨start_eq_failed_iff.mpr ⟨hstar, haddress, rfl⟩, rfl⟩

end StartCourse

/-! ## The theorem -/

/-- **A server starts with what comes first.** There is a configuration iff the file, if there is
one, can be read, has the right form and sets no limit of zero, and the variable, if it is set, has
a port. It is settled by the variable, the flags, the file and the defaults, and its limit is at
least one; and if there is none, the file is blamed before the variable. A server serves iff there
are a configuration, the table at its rules path, a gateway for them, and an address. A failure is
told with the code of the first of configuration, table and address that is missing, the address
only where no origin is `*`. With a configuration and a table, there is a gateway iff no origin is
`*`, and without it the server is stuck, whatever its address is. -/
theorem serve_startup (source : Files.Source Id) (path : Option String)
    (overrides : Config.Overrides) (port : Option String) :
    let resolved : Except Config.Error Config := Config.resolve source path overrides port
    let ending : Ending := Run.ending (Task.run source port (.serve path overrides))
    ((∃ config, resolved = .ok config) ↔
      (∃ settings, Gives source path settings) ∧ ∃ given, PortGiven port given) ∧
    (∀ config, resolved = .ok config ↔ ∃ settings given, Gives source path settings ∧
      PortGiven port given ∧ config = Config.settled given overrides settings) ∧
    (∀ e, resolved = .error e ↔ Unresolved source path port e) ∧
    (∀ config, resolved = .ok config → 1 ≤ config.bodyLimit) ∧
    (∀ config gateway, ending = .serving config gateway ↔ resolved = .ok config ∧ ∃ table,
      tableOf source config.rulesPath = .ok table ∧
      Gateway.ofConfig? config table = some gateway ∧ isSocketAddress config.address = true) ∧
    (∀ code e, (ending = .failed e ∧ e.code = code) ↔ StartFails source resolved code e) ∧
    (∀ config table, resolved = .ok config → tableOf source config.rulesPath = .ok table →
      ((∃ gateway, Gateway.ofConfig? config table = some gateway) ↔ "*" ∉ config.origins) ∧
      (ending = .stuck config ↔ "*" ∈ config.origins)) := by
  intro resolved ending
  have hcourse : StartCourse source resolved ending := course_serve source port path overrides
  have hok : ∀ config, resolved = .ok config ↔ ∃ settings given, Gives source path settings ∧
      PortGiven port given ∧ config = Config.settled given overrides settings :=
    fun _ => Config.resolve_eq_ok_iff
  refine ⟨?_, hok, fun _ => Config.resolve_eq_error_iff, ?_, fun _ _ => hcourse.serving_iff,
    fun _ _ => hcourse.fails_iff, ?_⟩
  · simp only [hok]
    constructor
    · rintro ⟨_, settings, given, hgives, hgiven, -⟩
      exact ⟨⟨settings, hgives⟩, given, hgiven⟩
    · rintro ⟨⟨settings, hgives⟩, given, hgiven⟩
      exact ⟨_, settings, given, hgives, hgiven, rfl⟩
  · intro config hconfig
    obtain ⟨settings, given, hgives, -, rfl⟩ := (hok config).mp hconfig
    exact hgives.one_le_bodyLimit given overrides
  · intro config table hconfig htable
    refine ⟨Gateway.exists_ofConfig?_iff config table, ?_⟩
    rw [hcourse.ending_eq hconfig htable, start_eq_stuck_iff]
    exact and_iff_right rfl

/-- A file that sets `*` as the only origin, and empty rules under any other path. -/
def starredFiles : Files.Source Id := fun path =>
  if path = "c.json" then .ok (Utf8.encode "\x7b\"cors_origins\":[\"*\"]\x7d")
  else .ok (Utf8.encode "\x7b\x7d")

/-- Flags that set the host, or nothing. -/
def hostFlag (host : Option String) : Config.Overrides :=
  ⟨none, host, none⟩

/-- The configuration of the file and the flags. -/
def starredConfig (host : Option String) : Config :=
  { Config.default with host := host.getD "0.0.0.0", origins := ["*"] }

/-- How a server with this configuration ends to start. -/
def starredEnding (host : Option String) : Ending :=
  Run.ending (Task.run starredFiles none (.serve (some "c.json") (hostFlag host)))

theorem resolve_starred (host : Option String) :
    Config.resolve starredFiles (some "c.json") (hostFlag host) none =
      (.ok (starredConfig host) : Except Config.Error Config) := by
  have hread : Json.readAll Settings.read (Utf8.encode "\x7b\"cors_origins\":[\"*\"]\x7d") =
      .ok { Settings.nothing with origins := some ["*"] } :=
    eq_ok_of_toOption (by decide +kernel)
  have hgives : Gives starredFiles (some "c.json")
      { Settings.nothing with origins := some ["*"] } :=
    .file ⟨_, rfl, hread⟩ (by decide)
  exact Config.resolve_eq_ok_iff.mpr ⟨_, _, hgives, .unset, by cases host <;> rfl⟩

theorem starredEnding_eq (host : Option String) :
    starredEnding host = .stuck (starredConfig host) := by
  have htable : tableOf starredFiles (starredConfig host).rulesPath = .ok .empty := rfl
  have hcourse := course_serve starredFiles none (some "c.json") (hostFlag host)
  exact (hcourse.ending_eq (resolve_starred host) htable).trans
    (start_eq_stuck_iff.mpr ⟨rfl, List.mem_singleton.mpr rfl⟩)

/-- There are a configuration and a table. With an address the server does not serve, and without
one it does not fail, so that no code is told. -/
theorem stuck_starred :
    (Config.resolve starredFiles (some "c.json") (hostFlag none) none =
        (.ok (starredConfig none) : Except Config.Error Config) ∧
      tableOf starredFiles (starredConfig none).rulesPath = .ok .empty ∧
      isSocketAddress (starredConfig none).address = true ∧
      ∀ config gateway, starredEnding none ≠ .serving config gateway) ∧
    (Config.resolve starredFiles (some "c.json") (hostFlag (some "nowhere")) none =
        (.ok (starredConfig (some "nowhere")) : Except Config.Error Config) ∧
      tableOf starredFiles (starredConfig (some "nowhere")).rulesPath = .ok .empty ∧
      isSocketAddress (starredConfig (some "nowhere")).address = false ∧
      ∀ e, starredEnding (some "nowhere") ≠ .failed e) := by
  refine ⟨⟨resolve_starred _, rfl, by decide, fun config gateway => ?_⟩, resolve_starred _, rfl,
    by decide, fun e => ?_⟩
  · rw [starredEnding_eq]
    exact nofun
  · rw [starredEnding_eq]
    exact nofun

end Gatehouse.Command
