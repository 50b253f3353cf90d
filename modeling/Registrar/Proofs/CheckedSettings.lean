import Registrar.CommandLine.Startup
import Registrar.Proofs.HostAddresses

/-!
# Settings that were checked

Settings that pass the check name a database of a known kind and make a usable registry, so that a
run with them fails for what it finds outside only: the database and the port. The host is left out
of the check, and it is the one setting that a run may still stop at.
-/

namespace Registrar

open Settings CommandLine

/-! ### What the check says -/

namespace Settings.Configuration

variable {settings : Configuration} {backend : Sql.Backend}

/-- The check looks at the database, the registry and the time for a request, and at nothing else. -/
theorem check_eq_ok_iff : settings.check = .ok backend
    ↔ settings.backend = .ok backend ∧ (∃ registry, settings.registry = .ok registry)
      ∧ settings.server.requestTimeout ≠ .zero := by
  unfold check
  cases settings.backend with
  | error fault => exact iff_of_false nofun nofun
  | ok found =>
      cases settings.registry with
      | error fault => exact iff_of_false nofun nofun
      | ok registry =>
          simp only [bind, Except.bind]
          split
          · next hzero => simp [hzero]
          · next htime => simp [htime]

theorem backend_eq_ok_iff : settings.backend = .ok backend
    ↔ ∃ dsn, settings.dsn = .ok dsn ∧ Dsn.backend dsn = .ok backend := by
  unfold Configuration.backend
  cases settings.dsn with
  | error fault => exact iff_of_false nofun nofun
  | ok dsn =>
      simp only [bind, Except.bind]
      cases hfound : Dsn.backend dsn with
      | error fault => simp [Except.mapError, hfound]
      | ok found => simp [Except.mapError, hfound]

theorem exists_databaseSettings {dsn : String} (hdsn : settings.dsn = .ok dsn) :
    ∃ database, settings.databaseSettings = .ok database := by
  unfold Configuration.dsn at hdsn
  cases hdatabase : settings.databaseSettings with
  | error fault =>
      rw [hdatabase] at hdsn
      contradiction
  | ok database => exact ⟨database, rfl⟩

/-- The registry accepts its settings once they have been read. -/
theorem usableTerms_of_registry {registry : ModuleSettings}
    (hregistry : settings.registry = .ok registry) : registry.usableTerms = .ok registry.terms := by
  unfold Configuration.registry at hregistry
  dsimp only at hregistry
  split at hregistry
  · contradiction
  · split at hregistry
    · next hvalid =>
        obtain rfl := Except.ok.inj hregistry
        unfold ModuleSettings.usableTerms
        rw [hvalid]
    · contradiction

/-- The address is made of the host and of the port if the host is written as one. -/
theorem address_eq : settings.address
    = match Net.Host.read? settings.server.host.toList with
      | some host => .ok (host.withPort settings.server.port)
      | none => .error (.badHost settings.server.host) := by
  unfold address
  rw [Net.parse?_host]
  cases Net.Host.read? settings.server.host.toList <;> rfl

end Settings.Configuration

/-- A name of a known kind is never refused for its kind. -/
theorem Dsn.connect_ne_unknown {dsn : String} {backend : Sql.Backend}
    (hbackend : Dsn.backend dsn = .ok backend) (pool : PoolSettings) (disk : Disk)
    (redacted : String) : (connect dsn pool disk).1 ≠ .error (.unknown redacted) := by
  unfold connect
  rw [hbackend]
  cases backend with
  | sqlite =>
      dsimp only
      split
      · exact nofun
      · split <;> exact nofun
  | postgres | mysql => exact nofun

/-! ### What a run makes of it -/

namespace CommandLine

variable {settings : Configuration}

/-- How a run ends once the database has been reached or not: it fails for the database, its tables, the host or the port, or it serves. -/
def served (binds : Net.SocketAddress → Bool) (settings : Configuration) :
    Except Dsn.ConnectionFault Dsn.Connection → Except String Ending
  | .error _ => .error "database connection failed"
  | .ok connection =>
    if connection.writable then
      match Net.Host.read? settings.server.host.toList with
      | none => .error s!"invalid bind address {settings.server.host}"
      | some host =>
        let address := host.withPort settings.server.port
        if binds address then .ok (.serving address) else .error s!"failed to bind {address.text}"
    else .error "authz_data migrations failed"

theorem Step.run_bind {α β : Type} (step : Step α) (next : α → Step β) (disk : Disk) :
    (step >>= next).run disk
      = match step.run disk with
        | (.ok value, after) => (next value).run after
        | (.error reason, after) => (.error reason, after) := by
  change ExceptT.bindCont next (step disk).1 (step disk).2 = match step disk with
    | (.ok value, after) => (next value).run after
    | (.error reason, after) => (.error reason, after)
  rcases step disk with ⟨reason | value, after⟩ <;> rfl

theorem Step.run_guard {α : Type} (condition : Prop) [Decidable condition] (value : α)
    (reason : String) (disk : Disk) :
    (if condition then pure value else throw reason : Step α).run disk
      = (if condition then .ok value else .error reason, disk) := by
  split <;> rfl

theorem resolve_run {α : Type} (found : Except SettingsFault α) (disk : Disk) :
    (resolve found).run disk = (found.mapError SettingsFault.message, disk) := by
  cases found <;> rfl

/-- The reason why a connection is not made is not passed on. -/
theorem connect_run {database : DatabaseSettings} {dsn : String}
    (hdatabase : settings.databaseSettings = .ok database) (hdsn : settings.dsn = .ok dsn)
    (disk : Disk) :
    (connect settings).run disk
      = ((Dsn.connect dsn (Configuration.pool database) disk).1.mapError
          fun _ => "database connection failed",
        (Dsn.connect dsn (Configuration.pool database) disk).2) := by
  have hget : ∀ disk, (get : Step Disk).run disk = (.ok disk, disk) := fun _ => rfl
  have hset : ∀ disk after, (set after : Step PUnit).run disk = (.ok (), after) := fun _ _ => rfl
  unfold connect
  rw [hdatabase, hdsn]
  simp only [Step.run_bind, resolve_run, Except.mapError, hget, hset]
  cases (Dsn.connect dsn (Configuration.pool database) disk).1 <;> rfl

/-- **Checked settings.** Settings that pass the check have a usable registry and name a database of the kind that the check tells, and a run with them ends as the database, the host and the port say: of all settings it can fail for the host alone, which the check does not look at. -/
theorem checked_served {settings : Configuration} {backend : Sql.Backend}
    (hcheck : settings.check = .ok backend) :
    (∃ registry terms, settings.registry = .ok registry ∧ registry.usableTerms = .ok terms)
      ∧ ∃ database dsn, settings.databaseSettings = .ok database ∧ settings.dsn = .ok dsn
        ∧ Dsn.backend dsn = .ok backend
        ∧ (∀ pool disk redacted, (Dsn.connect dsn pool disk).1 ≠ .error (.unknown redacted))
        ∧ ∀ binds disk, ((serve binds settings).run disk).1
          = served binds settings (Dsn.connect dsn (Configuration.pool database) disk).1 := by
  obtain ⟨hbackend, ⟨registry, hregistry⟩, -⟩ := Configuration.check_eq_ok_iff.mp hcheck
  obtain ⟨dsn, hdsn, hkind⟩ := Configuration.backend_eq_ok_iff.mp hbackend
  obtain ⟨database, hdatabase⟩ := Configuration.exists_databaseSettings hdsn
  refine ⟨⟨registry, _, hregistry, Configuration.usableTerms_of_registry hregistry⟩, database, dsn,
    hdatabase, hdsn, hkind, Dsn.connect_ne_unknown hkind, ?_⟩
  intro binds disk
  unfold serve migrate served
  rw [hregistry, Configuration.address_eq]
  simp only [Step.run_bind, Step.run_guard, resolve_run, connect_run hdatabase hdsn,
    Except.mapError]
  cases (Dsn.connect dsn (Configuration.pool database) disk).1 with
  | error fault => rfl
  | ok connection =>
      dsimp only
      cases connection.writable with
      | false => rfl
      | true => cases Net.Host.read? settings.server.host.toList <;> rfl

def namedHost : Configuration :=
  { Configuration.standard with
    server := { ServerSettings.standard with homeDirectory := "/srv", host := "localhost" } }

/-- They pass the check, and a run with them makes the database and fails all the same. -/
theorem namedHost_fails :
    namedHost.check = .ok .sqlite
      ∧ ((serve (fun _ => true) namedHost).run ⟨"/", [["srv"]], []⟩).1
        = .error "invalid bind address localhost" := by
  have hcheck : namedHost.check = .ok .sqlite := by decide +kernel
  refine ⟨hcheck, ?_⟩
  obtain ⟨-, database, dsn, hdatabase, hdsn, -, -, hserved⟩ := checked_served hcheck
  have hname : namedHost.dsn = .ok "sqlite:///srv/database/warden.db?mode=rwc" := by decide +kernel
  obtain rfl := Except.ok.inj (hname.symm.trans hdsn)
  obtain rfl : DatabaseSettings.standard = database := Except.ok.inj hdatabase
  have hreached : (Dsn.connect "sqlite:///srv/database/warden.db?mode=rwc"
      (Configuration.pool .standard) ⟨"/", [["srv"]], []⟩).1
      = .ok ⟨.sqlite, "sqlite:///srv/database/warden.db?mode=rwc", true⟩ := by
    decide +kernel
  rw [hserved, hreached]
  rfl

end CommandLine

end Registrar
