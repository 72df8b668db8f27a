import SshCompliance.Proofs.CommandLine.Printing
import SshCompliance.Proofs.Config.InForce

/-!
# How a run ends

A run ends well exactly if its configuration loads and is sound, the testbed in it has a device, a
mode is chosen, and what became of the queries it made is borne. Then it prints what the session
generates for the mode. Otherwise it ends with one and prints nothing, whatever went wrong and
however late. How it prints does not matter for any of this, nor does the way in which a policy is
chosen.
-/

namespace SshCompliance

/-- The configured testbed has a device: the first that it lists, with the inventory of the testbed
in the configured directory. -/
def Config.Resolves (config : Config) (files : Files) (target : Target) : Prop :=
  ∃ name testbeds testbed host,
    config.testbed = some name ∧ (Testbeds.ofFile files config.testbedFile).1 = .ok testbeds ∧
      testbeds.get? name = some testbed ∧ testbed.duts.head? = some host ∧
      target = ⟨Path.join config.inventoryDir testbed.inventory, host⟩

theorem Session.locate_eq_ok {config : Config} {name : String} {testbeds : Testbeds}
    {target : Target} :
    locate config name testbeds = .ok target ↔
      ∃ testbed host, testbeds.get? name = some testbed ∧ testbed.duts.head? = some host ∧
        target = ⟨Path.join config.inventoryDir testbed.inventory, host⟩ := by
  rw [locate, Testbeds.lookup]
  cases testbeds.get? name with
  | none => simp [bind, Except.bind]
  | some testbed =>
      cases hduts : testbed.duts <;>
        simp [Testbed.firstDut, hduts, bind, Except.bind, pure, Except.pure, eq_comm]

theorem Session.prepare_of_named {files : Files} {config : Config} {name : String}
    (hname : config.testbed = some name) :
    (prepare files config).1 =
      ((Testbeds.ofFile files config.testbedFile).1.bind (locate config name)).map
        (start · config) := by
  rw [prepare, Config.testbedName, hname]
  rcases Testbeds.ofFile files config.testbedFile with ⟨testbeds, records⟩
  simp only
  cases testbeds.bind (locate config name) <;> rfl

theorem Session.prepare_eq_ok {files : Files} {config : Config} {session : Session} :
    (prepare files config).1 = .ok session ↔
      ∃ target, config.Resolves files target ∧ session = start target config := by
  cases hname : config.testbed with
  | none => simp [prepare, Config.testbedName, Config.Resolves, hname]
  | some name =>
      have hresolves (target : Target) : config.Resolves files target ↔
          (Testbeds.ofFile files config.testbedFile).1.bind (locate config name) = .ok target := by
        cases hfile : (Testbeds.ofFile files config.testbedFile).1 with
        | error error => simp [Config.Resolves, hfile, Except.bind]
        | ok testbeds =>
            rw [Except.bind, locate_eq_ok]
            simp [Config.Resolves, hname, hfile]
      rw [prepare_of_named hname, CommandLine.map_eq_ok]
      simp only [hresolves, eq_comm (a := session)]

namespace CommandLine

theorem loadConfig_eq_ok {world : World} {options : Options} {config : Config} :
    (loadConfig world options).1 = .ok config ↔
      ∃ loaded,
        (Config.read world.files options.configFile (some world.environment)).1 = .ok loaded ∧
          config = loaded.override options.overrides ∧ config.check = .ok () := by
  rw [loadConfig]
  rcases hread : Config.read world.files options.configFile (some world.environment) with
    ⟨outcome, records⟩
  cases outcome with
  | error error => simp
  | ok loaded =>
      cases hcheck : (loaded.override options.overrides).check with
      | error error =>
          simp only [Config.review, hcheck, Except.ok.injEq]
          refine iff_of_false nofun ?_
          rintro ⟨_, rfl, rfl, hsound⟩
          rw [hcheck] at hsound
          cases hsound
      | ok =>
          simp only [Config.review, hcheck, Except.ok.injEq]
          constructor
          · rintro rfl
            exact ⟨loaded, rfl, rfl, hcheck⟩
          · rintro ⟨_, rfl, rfl, -⟩
            rfl

/-- What a run needs before it asks anything, and what it then goes on with. -/
structure Ready (world : World) (given : Options) (config : Config) (target : Target)
    (mode : Mode) : Prop where
  loaded : ∃ loaded,
    (Config.read world.files given.configFile (some world.environment)).1 = .ok loaded ∧
      config = loaded.override (given.orEnvironment world.environment).overrides
  checked : config.check = .ok ()
  resolved : config.Resolves world.files target
  chosen : given.mode? = some mode

section

variable (world : World) (config : Config) (target : Target) (mode : Mode)

def respond : List Call → Call → Answer := Ansible.answerAfter world.start config.ansibleBin

/-- What the chosen mode makes, with the calls it makes on the way. -/
def production : Run Call (Except Error Product × List Record) :=
  (produce (Session.start target config) mode).run (respond world config) []

/-- The queries that the chosen mode makes, with what became of them. -/
def asked : List Exchange :=
  Exchange.ofCalls (respond world config) [] (production world config target mode).requests

/-- No program makes the task break down that waits for it. -/
theorem sound_respond (history : List Call) (call : Call) :
    (respond world config history call).reply.Sound := by
  rw [respond, Ansible.answerAfter, Ansible.answer]
  cases Ansible.launch _ _ <;> exact fun _ => Reply.noConfusion

theorem production_ok_iff :
    (∃ product, (production world config target mode).value.1 = .ok product) ↔
      config.onQueryFailure = .degrade ∨ ∀ exchange ∈ asked world config target mode,
        (exchange.reply.names? config.outputMarker).isSome :=
  produce_ok_iff_bears _ [] (sound_respond world config) mode

end

section

variable {world : World} {given : Options} {config : Config} {target : Target} {mode : Mode}

theorem Ready.loadConfig (hready : Ready world given config target mode) :
    (loadConfig world (given.orEnvironment world.environment)).1 = .ok config := by
  obtain ⟨loaded, hloaded, hconfig⟩ := hready.loaded
  exact loadConfig_eq_ok.mpr ⟨loaded, hloaded, hconfig, hready.checked⟩

theorem run_of_ready (hready : Ready world given config target mode) :
    let report := run world given
    match (production world config target mode).value.1 with
    | .error _ => report.exitCode = 1 ∧ report.stdout = ""
    | .ok product => report.exitCode = 0 ∧ report.stdout = printed given.pretty product := by
  have hprepare := Session.prepare_eq_ok.mpr ⟨target, hready.resolved, rfl⟩
  have hload := hready.loadConfig
  rcases hloaded : CommandLine.loadConfig world (given.orEnvironment world.environment) with
    ⟨outcome, records⟩
  rcases hprepared : Session.prepare world.files config with ⟨started, remarks⟩
  rw [hloaded] at hload
  rw [hprepared] at hprepare
  obtain rfl : outcome = .ok config := hload
  obtain rfl : started = .ok (Session.start target config) := hprepare
  have hmode : (given.orEnvironment world.environment).mode? = some mode := hready.chosen
  simp only [run, hloaded, hprepared, finish, hmode, production, respond]
  cases ((produce (Session.start target config) mode).run
    (Ansible.answerAfter world.start config.ansibleBin) []).value.1 with
  | error error => exact ⟨rfl, rfl⟩
  | ok product => exact ⟨rfl, rfl⟩

theorem run_of_not_ready
    (hnone : ∀ config target mode, ¬Ready world given config target mode) :
    (run world given).exitCode = 1 ∧ (run world given).stdout = "" := by
  rcases hloaded : CommandLine.loadConfig world (given.orEnvironment world.environment) with
    ⟨outcome, records⟩
  cases outcome with
  | error error => simp [run, hloaded, Report.failed]
  | ok config =>
      obtain ⟨loaded, hread, hconfig, hchecked⟩ :=
        loadConfig_eq_ok.mp (congrArg Prod.fst hloaded)
      rcases hprepared : Session.prepare world.files config with ⟨started, remarks⟩
      cases started with
      | error error => simp [run, hloaded, hprepared, Report.failed]
      | ok session =>
          obtain ⟨target, hresolved, -⟩ :=
            Session.prepare_eq_ok.mp (congrArg Prod.fst hprepared)
          have hmode : (given.orEnvironment world.environment).mode? = none := by
            rw [Option.eq_none_iff_forall_not_mem]
            exact fun mode hmode =>
              hnone config target mode ⟨⟨loaded, hread, hconfig⟩, hchecked, hresolved, hmode⟩
          simp [run, hloaded, hprepared, finish, hmode, Report.failed]

/-- The needs of a run leave nothing open. -/
theorem Ready.unique (hready : Ready world given config target mode) {config' : Config}
    {target' : Target} {mode' : Mode} (hother : Ready world given config' target' mode') :
    config = config' ∧ target = target' ∧ mode = mode' := by
  obtain ⟨⟨loaded, hloaded, rfl⟩, -, hresolved, hchosen⟩ := hready
  obtain ⟨⟨loaded', hloaded', rfl⟩, -, hresolved', hchosen'⟩ := hother
  obtain rfl := Except.ok.inj (hloaded.symm.trans hloaded')
  refine ⟨rfl, ?_, Option.some.inj (hchosen.symm.trans hchosen')⟩
  have hprepare := Session.prepare_eq_ok.mpr ⟨target, hresolved, rfl⟩
  have hprepare' := Session.prepare_eq_ok.mpr ⟨target', hresolved', rfl⟩
  exact congrArg Session.target (Except.ok.inj (hprepare.symm.trans hprepare'))

/-- **A run ends in one of two ways.** -/
theorem run_cases (world : World) (given : Options) :
    ((run world given).exitCode = 1 ∧ (run world given).stdout = "" ∧
      ∀ config target mode, Ready world given config target mode →
        ∀ product, (production world config target mode).value.1 ≠ .ok product) ∨
    ∃ config target mode product, Ready world given config target mode ∧
      (production world config target mode).value.1 = .ok product ∧
      (run world given).exitCode = 0 ∧
      (run world given).stdout = printed given.pretty product := by
  by_cases hexists : ∃ config target mode, Ready world given config target mode
  · obtain ⟨config, target, mode, hready⟩ := hexists
    have hrun := run_of_ready hready
    cases hvalue : (production world config target mode).value.1 with
    | error error =>
        rw [hvalue] at hrun
        refine .inl ⟨hrun.1, hrun.2, ?_⟩
        intro config' target' mode' hready' product hproduct
        obtain ⟨rfl, rfl, rfl⟩ := hready.unique hready'
        rw [hvalue] at hproduct
        cases hproduct
    | ok product =>
        rw [hvalue] at hrun
        exact .inr ⟨config, target, mode, product, hready, hvalue, hrun⟩
  · have hnone : ∀ config target mode, ¬Ready world given config target mode :=
      fun config target mode hready => hexists ⟨config, target, mode, hready⟩
    obtain ⟨hexit, hstdout⟩ := run_of_not_ready hnone
    exact .inl ⟨hexit, hstdout,
      fun config target mode hready => absurd hready (hnone config target mode)⟩

end

/-! ### Ways to say the same -/

theorem consistent_of_readFrom {options : Options} {arguments : List String} {given : Options}
    (hread : readFrom options arguments = some (.run given)) : given.consistent := by
  fun_induction readFrom options arguments <;> simp_all

theorem run_strict (world : World) {given : Options} (hstrict : given.strict = true)
    (hpolicy : given.onQueryFailure = none) :
    run world { given with strict := false, onQueryFailure := some .fail } = run world given := by
  have hoverrides : Options.overrides
      (Options.orEnvironment { given with strict := false, onQueryFailure := some .fail }
        world.environment) = (given.orEnvironment world.environment).overrides := by
    simp [Options.overrides, Options.orEnvironment, hstrict, hpolicy]
  simp only [run, loadConfig, hoverrides]
  rfl

theorem ready_pretty {world : World} {given : Options} {config : Config} {target : Target}
    {mode : Mode} (pretty : Bool) :
    Ready world { given with pretty } config target mode ↔
      Ready world given config target mode :=
  ⟨fun ⟨loaded, checked, resolved, chosen⟩ => ⟨loaded, checked, resolved, chosen⟩,
    fun ⟨loaded, checked, resolved, chosen⟩ => ⟨loaded, checked, resolved, chosen⟩⟩

theorem run_pretty (world : World) (given : Options) (pretty : Bool) :
    (run world { given with pretty }).exitCode = (run world given).exitCode ∧
      ∀ mode matrices, given.mode? = some mode →
        (Shows mode (run world { given with pretty }).stdout matrices ↔
          Shows mode (run world given).stdout matrices) := by
  by_cases hexists : ∃ config target mode, Ready world given config target mode
  · obtain ⟨config, target, mode, hready⟩ := hexists
    have hone := run_of_ready ((ready_pretty pretty).mpr hready)
    have hother := run_of_ready hready
    cases hvalue : (production world config target mode).value.1 with
    | error error =>
        rw [hvalue] at hone hother
        rw [hone.1, hone.2, hother.1, hother.2]
        exact ⟨rfl, fun _ _ _ => Iff.rfl⟩
    | ok product =>
        rw [hvalue] at hone hother
        rw [hone.1, hone.2, hother.1, hother.2]
        refine ⟨rfl, fun other matrices hmode => ?_⟩
        obtain rfl := Option.some.inj (hready.chosen.symm.trans hmode)
        have hshows (form : Bool) :
            Shows mode (printed form product) matrices ↔ product.matrices = matrices := by
          have hprinted := shows_printed _ _ _ hvalue form
          exact ⟨hprinted.unique, fun hsame => hsame ▸ hprinted⟩
        exact (hshows _).trans (hshows _).symm
  · have hnone : ∀ config target mode, ¬Ready world given config target mode :=
      fun config target mode hready => hexists ⟨config, target, mode, hready⟩
    have hone := run_of_not_ready fun config target mode hready =>
      hnone config target mode ((ready_pretty pretty).mp hready)
    have hother := run_of_not_ready hnone
    rw [hone.1, hone.2, hother.1, hother.2]
    exact ⟨rfl, fun _ _ _ => Iff.rfl⟩

/-! ### Runs as a whole -/

theorem run_empty_of_failed (world : World) (given : Options) :
    (run world given).exitCode = 0 ∨
      (run world given).exitCode = 1 ∧ (run world given).stdout = "" := by
  obtain ⟨hexit, hstdout, -⟩ | ⟨_, _, _, _, -, -, hexit, -⟩ := run_cases world given
  · exact .inr ⟨hexit, hstdout⟩
  · exact .inl hexit

theorem exitCode_run_eq_zero_iff (world : World) (given : Options) :
    (run world given).exitCode = 0 ↔
      ∃ config target mode, Ready world given config target mode ∧
        (config.onQueryFailure = .degrade ∨ ∀ exchange ∈ asked world config target mode,
          (exchange.reply.names? config.outputMarker).isSome) := by
  obtain ⟨hexit, -, hnone⟩ | ⟨config, target, mode, product, hready, hproduct, hexit, -⟩ :=
    run_cases world given
  · rw [hexit]
    refine iff_of_false Nat.one_ne_zero ?_
    rintro ⟨config, target, mode, hready, hborne⟩
    obtain ⟨product, hproduct⟩ := (production_ok_iff world config target mode).mpr hborne
    exact hnone config target mode hready product hproduct
  · refine iff_of_true hexit ⟨config, target, mode, hready, ?_⟩
    exact (production_ok_iff world config target mode).mp ⟨product, hproduct⟩

theorem shows_run {world : World} {given : Options} {config : Config} {target : Target}
    {mode : Mode} (hexit : (run world given).exitCode = 0)
    (hready : Ready world given config target mode) :
    ∃ matrices,
      (Session.start target config).Generates (respond world config) [] mode.steps matrices ∧
        matrices.map Matrix.category = mode.wanted ∧
        Shows mode (run world given).stdout matrices := by
  have hrun := run_of_ready hready
  cases hvalue : (production world config target mode).value.1 with
  | error error =>
      rw [hvalue] at hrun
      rw [hrun.1] at hexit
      cases hexit
  | ok product =>
      rw [hvalue] at hrun
      obtain ⟨hgenerates, hcategories⟩ := generates_produce _ _ _ hvalue
      refine ⟨product.matrices, hgenerates, hcategories, ?_⟩
      rw [hrun.2]
      exact shows_printed _ _ _ hvalue given.pretty

/-- **How a run ends.** Take any command line that asks for a run. The run prints nothing unless it
ends well. It ends well exactly if it is ready and bears what became of its queries; it then shows
the matrices that the session generates for the mode, of the wanted categories in their order. How
it prints changes neither, and a strict run is one that is to fail with a query. -/
theorem executeIn_outcome {world : World} {arguments : List String} {given : Options}
    (hread : read arguments = some (.run given)) :
    let report := executeIn world arguments
    (report.exitCode = 0 ∨ report.exitCode = 1 ∧ report.stdout = "") ∧
    (report.exitCode = 0 ↔ ∃ config target mode, Ready world given config target mode ∧
      (config.onQueryFailure = .degrade ∨ ∀ exchange ∈ asked world config target mode,
        (exchange.reply.names? config.outputMarker).isSome)) ∧
    (report.exitCode = 0 → ∀ config target mode, Ready world given config target mode →
      ∃ matrices,
        (Session.start target config).Generates (respond world config) [] mode.steps matrices ∧
          matrices.map Matrix.category = mode.wanted ∧ Shows mode report.stdout matrices) ∧
    (∀ others pretty, read others = some (.run { given with pretty }) →
      (executeIn world others).exitCode = report.exitCode ∧
        ∀ mode matrices, given.mode? = some mode →
          (Shows mode (executeIn world others).stdout matrices ↔
            Shows mode report.stdout matrices)) ∧
    (∀ others, given.strict = true →
      read others = some (.run { given with strict := false, onQueryFailure := some .fail }) →
      executeIn world others = report) := by
  have hexecute {others : List String} {options : Options}
      (hothers : read others = some (.run options)) :
      executeIn world others = run world options := by
    rw [executeIn, hothers]
  intro report
  have hreport : report = run world given := hexecute hread
  rw [hreport]
  refine ⟨run_empty_of_failed world given, exitCode_run_eq_zero_iff world given,
    fun hexit config target mode hready => shows_run hexit hready, ?_, ?_⟩
  · intro others pretty hothers
    rw [hexecute hothers]
    exact run_pretty world given pretty
  · intro others hstrict hothers
    have hpolicy : given.onQueryFailure = none := by
      have hconsistent := consistent_of_readFrom hread
      cases hpolicy : given.onQueryFailure with
      | none => rfl
      | some policy => simp [Options.consistent, hstrict, hpolicy] at hconsistent
    rw [hexecute hothers]
    exact run_strict world hstrict hpolicy

/-! A device that reports a name on no list whenever it is asked, but cannot be asked for macs. -/

def growingRows : String := "#conf-name,dut,inv_name\nt1,[a;b],lab"

def growingWorld : World where
  environment := []
  files := {
    workingDirectory := "/"
    stateAt := fun path =>
      if path = "testbed.csv" then .content growingRows.toUTF8.toList else .absent .notFound }
  start := fun _ invocation =>
    if "ssh -Q mac" ∈ invocation.arguments then .ended (some 1) [] []
    else .ended (some 0) "rc=0 >> x".toUTF8.toList []

def growingConfig (policy : FailurePolicy) : Config :=
  { Config.default with testbed := some "t1", onQueryFailure := policy }

def growingTarget : Target := ⟨"../ansible/lab", "a"⟩

def growingOptions : Options := { Options.empty with testbed := some "t1" }

/-- The matrix of the one cipher as long as it is on no list. -/
def growingFirst : Matrix where
  category := .cipher
  parameter := "enum_dut_ssh_enc_cipher"
  cases := [⟨"enum_dut_ssh_enc_cipher[x]", "x", .expectedFailure,
    some "supported by DUT but not on the allow-list"⟩]
  missingFromDut := ["aes256-gcm@openssh.com", "aes256-ctr", "aes192-ctr"]
  degraded := false

/-- Its matrix once the list has it. -/
def growingSecond : Matrix :=
  { growingFirst with cases := [⟨"enum_dut_ssh_enc_cipher[x]", "x", .expected, none⟩] }

theorem resolves_growing (policy : FailurePolicy) :
    (growingConfig policy).Resolves growingWorld.files growingTarget := by
  have htext : growingWorld.files.readText "testbed.csv" = .ok growingRows := by decide +kernel
  have hpath : Path.extension? "testbed.csv" = some "csv" := by decide +kernel
  have hrows : Testbed.Csv.ofLines none 1 (Text.split (· = '\n') growingRows.toList) =
      .ok [⟨"t1", "", ["a", "b"], "lab"⟩] := by decide +kernel
  refine ⟨"t1", .ofList [⟨"t1", "", ["a", "b"], "lab"⟩], ⟨"t1", "", ["a", "b"], "lab"⟩, "a", rfl,
    ?_, by decide, rfl, ?_⟩
  · change (Testbeds.ofFile growingWorld.files "testbed.csv").1 = _
    simp only [Testbeds.ofFile, htext, Testbeds.ofText, hpath, Testbeds.ofCsv, hrows]
    rfl
  · cases policy <;> decide

theorem ready_growing {given : Options} {mode : Mode} {policy : FailurePolicy}
    (hfile : given.configFile = none)
    (hconfig : Config.default.override (given.orEnvironment []).overrides = growingConfig policy)
    (hmode : given.mode? = some mode) :
    Ready growingWorld given (growingConfig policy) growingTarget mode where
  loaded := by
    rw [hfile]
    exact ⟨Config.default, Config.read_nothing _, hconfig.symm⟩
  checked := by cases policy <;> decide
  resolved := resolves_growing policy
  chosen := hmode

/-- What the session generates for a mode under the policy to degrade. -/
def GrowingMakes (mode : Mode) (matrices : List Matrix) : Prop :=
  (Session.start growingTarget (growingConfig .degrade)).Generates
    (respond growingWorld (growingConfig .degrade)) [] mode.steps matrices

theorem growingMakes_repeats :
    GrowingMakes (.categories [.cipher, .cipher]) [growingFirst, growingSecond] :=
  ⟨[.one growingFirst, .one growingSecond], by decide +kernel, rfl⟩

theorem growingMakes_declared :
    GrowingMakes (.parameters ["login", "enum_dut_ssh_enc_cipher"]) [growingFirst] :=
  ⟨[.one growingFirst], by decide +kernel, rfl⟩

theorem growingMakes_undeclared : GrowingMakes (.parameters ["login"]) [] :=
  ⟨[.nothing], by decide +kernel, rfl⟩

theorem asked_growing_not_borne :
    ¬∀ exchange ∈ asked growingWorld (growingConfig .fail) growingTarget .all,
      (exchange.reply.names? (growingConfig .fail).outputMarker).isSome := by
  decide +kernel

theorem read_growing_repeats :
    read ["--testbed", "t1", "--category", "enc", "--category=cipher"] =
        some (.run { growingOptions with categories := [.cipher, .cipher] }) ∧
      read ["--category=ENC", "--pretty", "--testbed=t1", "--category", "enc"] =
        some (.run { growingOptions with categories := [.cipher, .cipher], pretty := true }) :=
  ⟨by decide +kernel, by decide +kernel⟩

theorem read_growing_parameters :
    read ["--param=login", "--param", "enum_dut_ssh_enc_cipher", "--testbed=t1"] =
        some (.run { growingOptions with
          parameters := ["login", "enum_dut_ssh_enc_cipher"] }) ∧
      read ["--param", "login", "--testbed", "t1"] =
        some (.run { growingOptions with parameters := ["login"] }) :=
  ⟨by decide +kernel, by decide +kernel⟩

theorem read_growing_strict :
    read ["--testbed=t1", "--all", "--strict"] =
        some (.run { growingOptions with all := true, strict := true }) ∧
      read ["--on-query-failure", "fail", "--testbed=t1", "--all"] =
        some (.run { growingOptions with all := true, onQueryFailure := some .fail }) :=
  ⟨by decide +kernel, by decide +kernel⟩

theorem executeIn_outcome_of_repeats :
    let run := executeIn growingWorld
    let repeats := run ["--testbed", "t1", "--category", "enc", "--category=cipher"]
    let pretty := run ["--category=ENC", "--pretty", "--testbed=t1", "--category", "enc"]
    let declared := run ["--param=login", "--param", "enum_dut_ssh_enc_cipher", "--testbed=t1"]
    let undeclared := run ["--param", "login", "--testbed", "t1"]
    let strict := run ["--testbed=t1", "--all", "--strict"]
    let failing := run ["--on-query-failure", "fail", "--testbed=t1", "--all"]
    (repeats.exitCode = 0 ∧
      Shows (.categories [.cipher, .cipher]) repeats.stdout [growingFirst, growingSecond]) ∧
    (pretty.exitCode = 0 ∧
      Shows (.categories [.cipher, .cipher]) pretty.stdout [growingFirst, growingSecond]) ∧
    (declared.exitCode = 0 ∧
      Shows (.parameters ["login", "enum_dut_ssh_enc_cipher"]) declared.stdout [growingFirst]) ∧
    (undeclared.exitCode = 0 ∧ undeclared.stdout = "") ∧
    (strict.exitCode = 1 ∧ strict.stdout = "") ∧
    failing = strict := by
  have hmade {arguments : List String} {given : Options} {mode : Mode} {matrices : List Matrix}
      (hread : read arguments = some (.run given))
      (hready : Ready growingWorld given (growingConfig .degrade) growingTarget mode)
      (hmakes : GrowingMakes mode matrices) :
      (executeIn growingWorld arguments).exitCode = 0 ∧
        Shows mode (executeIn growingWorld arguments).stdout matrices := by
    obtain ⟨-, hexit, hshows, -, -⟩ := executeIn_outcome hread
    have hzero := hexit.mpr ⟨_, _, _, hready, .inl rfl⟩
    obtain ⟨shown, hgenerates, -, hshown⟩ := hshows hzero _ _ _ hready
    obtain rfl := hgenerates.unique hmakes
    exact ⟨hzero, hshown⟩
  obtain ⟨hreadRepeats, hreadPretty⟩ := read_growing_repeats
  obtain ⟨hreadDeclared, hreadUndeclared⟩ := read_growing_parameters
  obtain ⟨hreadStrict, hreadFailing⟩ := read_growing_strict
  have hrepeats := hmade hreadRepeats (ready_growing rfl rfl rfl) growingMakes_repeats
  have hdeclared := hmade hreadDeclared (ready_growing rfl rfl rfl) growingMakes_declared
  have hundeclared := hmade hreadUndeclared (ready_growing rfl rfl rfl) growingMakes_undeclared
  obtain ⟨-, -, -, hpretty, -⟩ := @executeIn_outcome growingWorld _ _ hreadRepeats
  obtain ⟨hsame, hiff⟩ := hpretty _ true hreadPretty
  obtain ⟨hend, hexit, -, -, hfailing⟩ := @executeIn_outcome growingWorld _ _ hreadStrict
  have hstrict := hend.resolve_left fun hzero => by
    obtain ⟨config, target, mode, hready, hborne⟩ := hexit.mp hzero
    have hfail : Ready growingWorld { growingOptions with all := true, strict := true }
        (growingConfig .fail) growingTarget .all := ready_growing rfl rfl rfl
    obtain ⟨rfl, rfl, rfl⟩ := hfail.unique hready
    exact hborne.elim nofun asked_growing_not_borne
  exact ⟨hrepeats, ⟨hsame.trans hrepeats.1, (hiff _ _ rfl).mpr hrepeats.2⟩, hdeclared,
    ⟨hundeclared.1, hundeclared.2.text_eq_empty (by decide)⟩, hstrict,
    hfailing _ rfl hreadFailing⟩

end CommandLine

end SshCompliance
