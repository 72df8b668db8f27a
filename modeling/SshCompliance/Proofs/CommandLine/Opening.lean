import SshCompliance.Proofs.CommandLine.Outcome
import SshCompliance.Proofs.Testbed.File

/-!
# How a session opens

The search for the device of a configuration goes from the name of a testbed to the text of the
file, to what the text says, to the last testbed of that name and to the first device in it. It ends
at the first of these that is missing. A session opens with the device found and the allow-lists as
configured, and nothing has been asked by then: whatever a run starts answers what its session asks.
-/

namespace SshCompliance

/-- What comes of the search for the device of a configuration. -/
inductive Config.Finds (config : Config) (files : Files) : Except Error Target → Prop
  | unnamed (hname : config.testbed = none) :
    Finds config files (.error (.config "Missing required configuration value: testbed"))
  | unreadable {name : String} {fault : FileFault} (hname : config.testbed = some name)
    (htext : files.readText config.testbedFile = .error fault) :
    Finds config files (.error (.testbed
      ("Failed to read testbed file " ++ config.testbedFile ++ ": " ++ fault.message)))
  | malformed {name text : String} {error : Error} (hname : config.testbed = some name)
    (htext : files.readText config.testbedFile = .ok text)
    (hreads : Testbeds.Reads config.testbedFile text (.error error)) :
    Finds config files (.error error)
  | unknown {name text : String} {entries : List Testbed} (hname : config.testbed = some name)
    (htext : files.readText config.testbedFile = .ok text)
    (hreads : Testbeds.Reads config.testbedFile text (.ok entries))
    (hnone : ∀ entry ∈ entries, entry.name ≠ name) :
    Finds config files (.error (.testbed ("Testbed " ++ name ++ " not found")))
  | deviceless {name text : String} {entries : List Testbed} {entry : Testbed}
    (hname : config.testbed = some name) (htext : files.readText config.testbedFile = .ok text)
    (hreads : Testbeds.Reads config.testbedFile text (.ok entries))
    (hlast : Testbeds.IsLast entries name entry) (hduts : entry.duts = []) :
    Finds config files (.error (.testbed ("Testbed " ++ name ++ " lists no DUT")))
  | found {name text host : String} {entries : List Testbed} {entry : Testbed}
    {others : List String} (hname : config.testbed = some name)
    (htext : files.readText config.testbedFile = .ok text)
    (hreads : Testbeds.Reads config.testbedFile text (.ok entries))
    (hlast : Testbeds.IsLast entries name entry) (hduts : entry.duts = host :: others) :
    Finds config files (.ok ⟨Path.join config.inventoryDir entry.inventory, host⟩)

theorem Config.exists_finds (config : Config) (files : Files) :
    ∃ outcome, config.Finds files outcome := by
  cases hname : config.testbed with
  | none => exact ⟨_, .unnamed hname⟩
  | some name =>
  cases htext : files.readText config.testbedFile with
  | error fault => exact ⟨_, .unreadable hname htext⟩
  | ok text =>
  obtain ⟨read, hreads⟩ := Testbeds.exists_reads config.testbedFile text
  cases read with
  | error error => exact ⟨_, .malformed hname htext hreads⟩
  | ok entries =>
  cases hget : (Testbeds.ofList entries).get? name with
  | none =>
      exact ⟨_, .unknown hname htext hreads (Testbeds.get?_ofList_eq_none_iff.mp hget)⟩
  | some entry =>
  have hlast := Testbeds.get?_ofList_eq_some_iff.mp hget
  cases hduts : entry.duts with
  | nil => exact ⟨_, .deviceless hname htext hreads hlast hduts⟩
  | cons host others => exact ⟨_, .found hname htext hreads hlast hduts⟩

section

variable {config : Config} {files : Files} {name text : String}

namespace Session

theorem prepare_of_readText (hname : config.testbed = some name)
    (htext : files.readText config.testbedFile = .ok text) :
    (prepare files config).1 =
      ((Testbeds.ofText config.testbedFile text).bind (locate config name)).map
        (start · config) := by
  rw [prepare_of_named hname, Testbeds.ofFile, htext]

theorem prepare_of_reads {entries : List Testbed} (hname : config.testbed = some name)
    (htext : files.readText config.testbedFile = .ok text)
    (hreads : Testbeds.Reads config.testbedFile text (.ok entries)) :
    (prepare files config).1 =
      (locate config name (.ofList entries)).map (start · config) := by
  rw [prepare_of_readText hname htext, Testbeds.ofText_of_reads hreads]
  rfl

/-- A session opens as the search for the device ends. -/
theorem prepare_of_finds {outcome : Except Error Target} (hfinds : config.Finds files outcome) :
    (prepare files config).1 = outcome.map (start · config) := by
  cases hfinds with
  | unnamed hname =>
      rw [prepare, Config.testbedName, hname]
      rfl
  | unreadable hname htext =>
      rw [prepare_of_named hname, Testbeds.ofFile, htext]
      rfl
  | malformed hname htext hreads =>
      rw [prepare_of_readText hname htext, Testbeds.ofText_of_reads hreads]
      rfl
  | unknown hname htext hreads hnone =>
      rw [prepare_of_reads hname htext hreads, locate, Testbeds.lookup,
        Testbeds.get?_ofList_eq_none_iff.mpr hnone]
      rfl
  | deviceless hname htext hreads hlast hduts =>
      rw [prepare_of_reads hname htext hreads, locate, Testbeds.lookup,
        Testbeds.get?_ofList_eq_some_iff.mpr hlast, ← hlast.1]
      simp [Testbed.firstDut, hduts, bind, Except.bind, Except.map]
  | @found name text host entries entry others hname htext hreads hlast hduts =>
      have hlocate : locate config name (.ofList entries) =
          .ok ⟨Path.join config.inventoryDir entry.inventory, host⟩ :=
        locate_eq_ok.mpr ⟨entry, host, Testbeds.get?_ofList_eq_some_iff.mpr hlast,
          congrArg List.head? hduts, rfl⟩
      rw [prepare_of_reads hname htext hreads, hlocate, Except.map]

theorem prepare_eq_error_iff_finds {error : Error} :
    (prepare files config).1 = .error error ↔ config.Finds files (.error error) := by
  constructor
  · intro hprepare
    obtain ⟨outcome, hfinds⟩ := config.exists_finds files
    rw [prepare_of_finds hfinds] at hprepare
    cases outcome with
    | ok target => cases hprepare
    | error other =>
        cases hprepare
        exact hfinds
  · exact fun hfinds => prepare_of_finds hfinds

theorem prepare_eq_ok_iff_finds {session : Session} :
    (prepare files config).1 = .ok session ↔
      ∃ target, config.Finds files (.ok target) ∧ session = start target config := by
  constructor
  · intro hprepare
    obtain ⟨outcome, hfinds⟩ := config.exists_finds files
    rw [prepare_of_finds hfinds] at hprepare
    cases outcome with
    | ok target =>
        cases hprepare
        exact ⟨target, hfinds, rfl⟩
    | error error => cases hprepare
  · rintro ⟨target, hfinds, rfl⟩
    exact prepare_of_finds hfinds

theorem exists_prepare_eq_ok_iff :
    (∃ session, (prepare files config).1 = .ok session) ↔
      ∃ name text entries entry, config.testbed = some name ∧
        files.readText config.testbedFile = .ok text ∧
        Testbeds.Reads config.testbedFile text (.ok entries) ∧
        Testbeds.IsLast entries name entry ∧ entry.duts ≠ [] := by
  constructor
  · rintro ⟨session, hprepare⟩
    obtain ⟨target, hfinds, -⟩ := prepare_eq_ok_iff_finds.mp hprepare
    cases hfinds with
    | found hname htext hreads hlast hduts =>
        exact ⟨_, _, _, _, hname, htext, hreads, hlast, by simp [hduts]⟩
  · rintro ⟨name, text, entries, entry, hname, htext, hreads, hlast, hduts⟩
    obtain ⟨host, others, hduts⟩ := List.exists_cons_of_ne_nil hduts
    exact ⟨_, prepare_of_finds (.found hname htext hreads hlast hduts)⟩

end Session

end

namespace CommandLine

/-- A run starts what its session asks for in the chosen mode, and nothing else. -/
theorem invocations_run {world : World} {given : Options} {config : Config}
    (hconfig : (loadConfig world (given.orEnvironment world.environment)).1 = .ok config) :
    (run world given).invocations =
      match (Session.prepare world.files config).1, given.mode? with
      | .ok session, some mode =>
        Ansible.startedAfter world.start config.ansibleBin []
          ((produce session mode).run (respond world config) []).requests
      | _, _ => [] := by
  have hmode : (given.orEnvironment world.environment).mode? = given.mode? := rfl
  rcases hloaded : loadConfig world (given.orEnvironment world.environment) with
    ⟨outcome, records⟩
  rw [hloaded] at hconfig
  obtain rfl : outcome = .ok config := hconfig
  rcases hprepared : Session.prepare world.files config with ⟨started, remarks⟩
  cases started with
  | error error => simp [run, hloaded, hprepared, Report.failed]
  | ok session =>
      simp only [run, hloaded, hprepared, finish, hmode, respond]
      cases given.mode? with
      | none => rfl
      | some mode =>
          simp only
          cases ((produce session mode).run
            (Ansible.answerAfter world.start config.ansibleBin) []).value.1 <;> rfl

/-- **A session opens with the first device of the last testbed of its name.** It does so if and
only if there is such a device, and otherwise the error is that of the first thing missing on the
way to it. It starts with the allow-lists as configured and before anything is asked. -/
theorem opening_finds_device (files : Files) (config : Config) :
    let opened := (Session.prepare files config).1
    ((∃ session, opened = .ok session) ↔
      ∃ name text entries entry, config.testbed = some name ∧
        files.readText config.testbedFile = .ok text ∧
        Testbeds.Reads config.testbedFile text (.ok entries) ∧
        Testbeds.IsLast entries name entry ∧ entry.duts ≠ []) ∧
    (∀ session, opened = .ok session ↔
      ∃ target, config.Finds files (.ok target) ∧ session = Session.start target config) ∧
    (∀ session, opened = .ok session →
      config.Finds files (.ok session.target) ∧
        ∀ category, session.lists.get category = config.allowLists.get category) ∧
    (∀ error, opened = .error error ↔ config.Finds files (.error error)) ∧
    ∀ world given, world.files = files →
      (loadConfig world (given.orEnvironment world.environment)).1 = .ok config →
      (run world given).invocations =
        match opened, given.mode? with
        | .ok session, some mode =>
          Ansible.startedAfter world.start config.ansibleBin []
            ((produce session mode).run (respond world config) []).requests
        | _, _ => [] := by
  refine ⟨Session.exists_prepare_eq_ok_iff, fun _ => Session.prepare_eq_ok_iff_finds, ?_,
    fun _ => Session.prepare_eq_error_iff_finds, ?_⟩
  · intro session hprepare
    obtain ⟨target, hfinds, rfl⟩ := Session.prepare_eq_ok_iff_finds.mp hprepare
    exact ⟨hfinds, fun _ => rfl⟩
  · rintro world given rfl hconfig
    exact invocations_run hconfig

/-! Two testbeds that come twice, one of them without a device in its last row. -/

def shadowedRows : String :=
  "# conf-name,dut,inv_name\nt1,[a;b],lab\nt2,a,lab\nt1,[c;d],veos\nt2,[],lab"

def shadowedWorld : World where
  environment := []
  files := {
    workingDirectory := "/"
    stateAt := fun path =>
      if path = "testbed.csv" then .content shadowedRows.toUTF8.toList else .absent .notFound }
  start := fun _ _ => .ended (some 1) [] []

theorem prepare_shadowed (name : String) :
    let config := { Config.default with testbed := some name }
    (Session.prepare shadowedWorld.files config).1 =
      (Session.locate config name (.ofList [⟨"t1", "", ["a", "b"], "lab"⟩,
        ⟨"t2", "", ["a"], "lab"⟩, ⟨"t1", "", ["c", "d"], "veos"⟩, ⟨"t2", "", [], "lab"⟩])).map
          (Session.start · config) := by
  intro config
  have htext : shadowedWorld.files.readText "testbed.csv" = .ok shadowedRows := by decide +kernel
  have hpath : Path.extension? "testbed.csv" = some "csv" := by decide +kernel
  have hrows : Testbed.Csv.ofLines none 1 (Text.split (· = '\n') shadowedRows.toList) =
      .ok [⟨"t1", "", ["a", "b"], "lab"⟩, ⟨"t2", "", ["a"], "lab"⟩,
        ⟨"t1", "", ["c", "d"], "veos"⟩, ⟨"t2", "", [], "lab"⟩] := by decide +kernel
  have hfile : config.testbedFile = "testbed.csv" := rfl
  rw [Session.prepare_of_readText rfl htext, hfile, Testbeds.ofText, hpath,
    if_neg (by decide), Testbeds.ofCsv, hrows]
  rfl

theorem opening_finds_device_of_shadowed_rows :
    let config (name : String) : Config := { Config.default with testbed := some name }
    (config "t1").Finds shadowedWorld.files (.ok ⟨"../ansible/veos", "c"⟩) ∧
      (config "t2").Finds shadowedWorld.files
        (.error (.testbed "Testbed t2 lists no DUT")) ∧
      (run shadowedWorld
        { Options.empty with testbed := some "t1", categories := [.mac] }).invocations =
          [⟨"ansible", ["-m", "shell", "-i", "../ansible/veos", "c", "-a",
            "ssh -Q mac"]⟩] := by
  intro config
  have hresolved : (Session.prepare shadowedWorld.files (config "t1")).1 =
      .ok (Session.start ⟨"../ansible/veos", "c"⟩ (config "t1")) :=
    (prepare_shadowed "t1").trans (by decide)
  have hrefused : (Session.prepare shadowedWorld.files (config "t2")).1 =
      .error (.testbed "Testbed t2 lists no DUT") := (prepare_shadowed "t2").trans (by decide)
  have hloaded : (loadConfig shadowedWorld
      ({ Options.empty with testbed := some "t1", categories := [.mac] }.orEnvironment [])).1 =
        .ok (config "t1") :=
    loadConfig_eq_ok.mpr ⟨_, Config.read_nothing _, rfl, by decide⟩
  obtain ⟨-, -, hfound, -, hstarted⟩ := opening_finds_device shadowedWorld.files (config "t1")
  obtain ⟨-, -, -, herror, -⟩ := opening_finds_device shadowedWorld.files (config "t2")
  refine ⟨(hfound _ hresolved).1, (herror _).mp hrefused, ?_⟩
  have hrequests (session : Session) : ((produce session (.categories [.mac])).run
      (respond shadowedWorld (config "t1")) []).requests = [session.call .mac] := by
    simp only [produce, Dialogue.requests_bind, Dialogue.requests_pure, List.append_nil,
      requests_matricesFor_cons]
    split <;> rfl
  rw [hstarted shadowedWorld _ rfl hloaded, hresolved]
  exact (congrArg (Ansible.startedAfter shadowedWorld.start "ansible" [])
    (hrequests _)).trans (by decide)

end CommandLine

end SshCompliance
