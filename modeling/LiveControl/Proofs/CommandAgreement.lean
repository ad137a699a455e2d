import LiveControl.Proofs.CommandWords
import LiveControl.Proofs.PolicyText

namespace LiveControl.CommandLine

variable {files : Files} {file : String}

theorem loadAccepted_of_load {policy : Policy} (loaded : Policy.load files file = .ok policy) :
    Policy.loadAccepted files file = policy.accepted := by
  simp only [Policy.loadAccepted, loaded, bind, Except.bind]

theorem inspectedPolicy_of_load {policy : Policy} (loaded : Policy.load files file = .ok policy) :
    inspectedPolicy files (some file) = .ok policy := by
  rw [inspectedPolicy, loaded]
  rfl

/-- What the file holds is a policy in which the review finds no error. -/
structure Holds (files : Files) (file : String) (policy : Policy) : Prop where
  loaded : Policy.load files file = .ok policy
  clean : policy.errors = []

theorem Holds.ratingPolicy {policy : Policy} (holds : Holds files file policy) :
    ratingPolicy files (some file) = .ok policy := by
  have accepted : policy.accepted = .ok policy := by
    rw [Policy.accepted, holds.clean]
    rfl
  rw [CommandLine.ratingPolicy, loadAccepted_of_load holds.loaded, accepted]
  rfl

theorem reviewPolicy_exit {policy : Policy} (inspected : inspectedPolicy files (some file) = .ok policy) (json : Bool) :
    (reviewPolicy files (some file) json).exit = if policy.errors = [] then 0 else 1 := by
  simp only [reviewPolicy, inspected, List.isEmpty_iff]
  split <;> rfl

/-- A policy without errors can be written, and what is written is that policy. -/
theorem Holds.ofJson?_toJson {policy : Policy} (holds : Holds files file policy) :
    Policy.ofJson? policy.toJson = some policy :=
  Policy.ofJson?_toJson (Policy.epsilon_of_no_errors holds.clean).1

/-- A file either holds an acceptable policy, or is refused to the commands that rate and fails its review. -/
theorem holds_or_refused (files : Files) (file : String) :
    (∃ policy, Holds files file policy) ∨
      (∃ failure, ratingPolicy files (some file) = .error failure) ∧
        ∀ json, (reviewPolicy files (some file) json).exit = 1 := by
  cases loaded : Policy.load files file with
  | error cause =>
    refine .inr ⟨⟨.policy cause, ?_⟩, fun json => ?_⟩
    · rw [ratingPolicy, Policy.loadAccepted, loaded]
      rfl
    · rw [reviewPolicy, inspectedPolicy, loaded]
      rfl
  | ok policy =>
    by_cases clean : policy.errors = []
    · exact .inl ⟨policy, loaded, clean⟩
    · have found : policy.errors.isEmpty = false := by simpa using clean
      have refused : ∃ cause, policy.accepted = .error cause := by
        rw [Policy.accepted, found]
        exact ⟨_, rfl⟩
      obtain ⟨cause, refused⟩ := refused
      refine .inr ⟨⟨.policy cause, ?_⟩, fun json => ?_⟩
      · rw [ratingPolicy, loadAccepted_of_load loaded, refused]
        rfl
      · rw [reviewPolicy_exit (inspectedPolicy_of_load loaded), if_neg clean]

/-- The ratings of the actions of a profile under a policy, as they are printed. -/
def ratingsReport (json : Bool) (policy : Policy) (profile : Profile) (session : Session)
    (catalog : Option EntityCatalog) : String :=
  let ratings := (Evaluator.standard policy).ratings profile session catalog
  if json then documentText (ratingsDocument profile session ratings) else ratingsText profile ratings

/-- Whether a profile is ready under a policy, as it is printed. -/
def readinessReport (json : Bool) (policy : Policy) (profile : Profile) (session : Option Session)
    (status : Option DependencyStatus) (catalog : Option EntityCatalog) : String :=
  let report := CompatibilityReport.build (.standard policy) profile (.ofOption session) status catalog
  if json then documentText report.toJson else compatibilityText report

/-- A policy as it is printed. -/
def policyReport (json : Bool) (policy : Policy) : String :=
  if json then documentText policy.toJson else policy.toYaml

/-- A text shows an acceptable policy. Without `--json` the text of a policy file is printed, and it is read as the policy.
With it a document is printed, and it is read back with the policy's fields; its number is what documents make of the
number's text. Either way no other acceptable policy is printed as this text. -/
structure Shows (json : Bool) (text : String) (policy : Policy) : Prop where
  file : json = false → Policy.ofYaml? text = some policy
  document : json = true → ∃ read, Json.parseRaw? text = some read ∧
    ∀ name ≠ "float_epsilon", read.given? name = policy.toJson.given? name
  only (other : Policy) : other.errors = [] → policyReport json other = text → other = policy

theorem shows_policyReport {policy : Policy} (clean : policy.errors = []) (json : Bool) :
    Shows json (policyReport json policy) policy := by
  obtain ⟨finite, -⟩ := Policy.epsilon_of_no_errors clean
  cases json with
  | false =>
    have file := Policy.ofYaml?_toYaml finite
    refine ⟨fun _ => file, nofun, fun other clean same => ?_⟩
    have file' := Policy.ofYaml?_toYaml (Policy.epsilon_of_no_errors clean).1
    have same : other.toYaml = policy.toYaml := same
    rw [same, file] at file'
    exact (Option.some.inj file').symm
  | true =>
    have text (policy : Policy) : policyReport true policy = policy.toJson.pretty ++ "\n" := by
      simp [policyReport, documentText, linesText, String.join]
    refine ⟨nofun, fun _ => ?_, fun other clean same => ?_⟩
    · rw [text]
      exact policy.parseRaw?_toJson
    · rw [text, text] at same
      exact Policy.eq_of_pretty_eq (Policy.epsilon_of_no_errors clean).1 finite ((String.append_left_inj "\n").1 same)

/-- Words that ask for the ratings of a profile and name no policy file; the documents are well formed. -/
def AsksRatings (files : Files) (words : List String) (json : Bool) (profile : Profile) (session : Session)
    (catalog : Option EntityCatalog) : Prop :=
  ∃ profileFile sessionFile catalogFile,
    invocation bare words = .ok ⟨none, json, .reliability profileFile sessionFile catalogFile⟩ ∧
      readProfile files profileFile = .ok profile ∧
      readDocument files "session" sessionFile Session.ofJson? = .ok session ∧
      readCatalog? files catalogFile = .ok catalog

/-- Words that ask whether a profile is ready and name no policy file; the documents are well formed. -/
def AsksReadiness (files : Files) (words : List String) (json : Bool) (profile : Profile) (session : Option Session)
    (status : Option DependencyStatus) (catalog : Option EntityCatalog) : Prop :=
  ∃ profileFile sessionFile statusText catalogFile,
    invocation bare words = .ok ⟨none, json, .compatibility profileFile sessionFile statusText catalogFile⟩ ∧
      readProfile files profileFile = .ok profile ∧
      readDocument? files "session" sessionFile Session.ofJson? = .ok session ∧
      readStatus? statusText = .ok status ∧ readCatalog? files catalogFile = .ok catalog

section Runs

variable {env : String → Option String} {words : List String} {json : Bool} {command : Command}

theorem run_config (asks : invocation bare words = .ok ⟨none, json, command⟩) (nameable : Nameable env file) :
    run files env ("--config" :: file :: words) = execute files ⟨some file, json, command⟩ := by
  rw [run, (invocation_config asks file).1 nameable]

theorem run_config_misused (asks : invocation bare words = .ok ⟨none, json, command⟩)
    (misnamed : ¬Nameable env file) :
    run files env ("--config" :: file :: words) = .misused := by
  rw [run, (invocation_config asks file).2 misnamed]

theorem run_of_asksRatings {profile : Profile} {session : Session} {catalog : Option EntityCatalog}
    (asks : AsksRatings files words json profile session catalog) (nameable : Nameable env file) :
    run files env ("--config" :: file :: words) =
      .ofExcept ((ratingPolicy files (some file)).map fun policy =>
        ratingsReport json policy profile session catalog) := by
  obtain ⟨profileFile, sessionFile, catalogFile, asks, readsProfile, readsSession, readsCatalog⟩ := asks
  rw [run_config asks nameable]
  simp only [execute, reliability, readsProfile, readsSession, readsCatalog]
  cases ratingPolicy files (some file) <;> rfl

theorem run_of_asksReadiness {profile : Profile} {session : Option Session} {status : Option DependencyStatus}
    {catalog : Option EntityCatalog} (asks : AsksReadiness files words json profile session status catalog)
    (nameable : Nameable env file) :
    run files env ("--config" :: file :: words) =
      .ofExcept ((ratingPolicy files (some file)).map fun policy =>
        readinessReport json policy profile session status catalog) := by
  obtain ⟨profileFile, sessionFile, statusText, catalogFile, asks, readsProfile, readsSession, readsStatus,
    readsCatalog⟩ := asks
  rw [run_config asks nameable]
  simp only [execute, compatibility, readsProfile, readsSession, readsStatus, readsCatalog]
  cases ratingPolicy files (some file) <;> rfl

theorem run_of_shows (shows : invocation bare words = .ok ⟨none, json, .showPolicy⟩)
    (nameable : Nameable env file) :
    run files env ("--config" :: file :: words) =
      .ofExcept ((inspectedPolicy files (some file)).map (policyReport json)) := by
  rw [run_config shows nameable]
  rfl

theorem run_of_reviews (reviews : invocation bare words = .ok ⟨none, json, .reviewPolicy⟩)
    (nameable : Nameable env file) :
    run files env ("--config" :: file :: words) = reviewPolicy files (some file) json := by
  rw [run_config reviews nameable]
  rfl

end Runs

/-- Whatever stands in the policy file, what is rated under it comes to a good end just in case its review does.
The policy is then the one that is shown, and what is printed of it says all of it. -/
theorem commands_agree (env : String → Option String) (file : String) {rating readiness review shown : List String}
    {j₁ j₂ j₃ j₄ : Bool} {profile profile' : Profile} {session : Session} {session' : Option Session}
    {status : Option DependencyStatus} {catalog catalog' : Option EntityCatalog}
    (rates : AsksRatings files rating j₁ profile session catalog)
    (readies : AsksReadiness files readiness j₂ profile' session' status catalog')
    (reviews : invocation bare review = .ok ⟨none, j₃, .reviewPolicy⟩)
    (shows : invocation bare shown = .ok ⟨none, j₄, .showPolicy⟩) :
    let under words := run files env ("--config" :: file :: words)
    ((under rating).exit = 0 ↔ (under review).exit = 0) ∧
      ((under readiness).exit = 0 ↔ (under review).exit = 0) ∧
      ((under review).exit = 0 → ∃ policy, Policy.load files file = .ok policy ∧
        Policy.ofJson? policy.toJson = some policy ∧ under shown = .printed (policyReport j₄ policy) ∧
        Shows j₄ (policyReport j₄ policy) policy ∧
        under rating = .printed (ratingsReport j₁ policy profile session catalog) ∧
        under readiness = .printed (readinessReport j₂ policy profile' session' status catalog')) := by
  intro under
  by_cases nameable : Nameable env file
  · have ratingRun : under rating = _ := run_of_asksRatings rates nameable
    have readinessRun : under readiness = _ := run_of_asksReadiness readies nameable
    have reviewRun : under review = _ := run_of_reviews reviews nameable
    have shownRun : under shown = _ := run_of_shows shows nameable
    rcases holds_or_refused files file with ⟨policy, holds⟩ | ⟨⟨failure, refused⟩, fails⟩
    · have good : (under review).exit = 0 := by
        rw [reviewRun, reviewPolicy_exit (inspectedPolicy_of_load holds.loaded), if_pos holds.clean]
      rw [holds.ratingPolicy] at ratingRun readinessRun
      rw [inspectedPolicy_of_load holds.loaded] at shownRun
      refine ⟨iff_of_true ?_ good, iff_of_true ?_ good, fun _ => ?_⟩
      · rw [ratingRun]
        rfl
      · rw [readinessRun]
        rfl
      · exact ⟨policy, holds.loaded, holds.ofJson?_toJson, shownRun, shows_policyReport holds.clean j₄, ratingRun,
          readinessRun⟩
    · have bad : (under review).exit ≠ 0 := by
        rw [reviewRun, fails]
        decide
      rw [refused] at ratingRun readinessRun
      refine ⟨iff_of_false ?_ bad, iff_of_false ?_ bad, fun good => absurd good bad⟩
      · rw [ratingRun]
        exact Nat.one_ne_zero
      · rw [readinessRun]
        exact Nat.one_ne_zero
  · obtain ⟨_, _, _, asksRating, -⟩ := rates
    obtain ⟨_, _, _, _, asksReadiness, -⟩ := readies
    have ratingRun : under rating = .misused := run_config_misused asksRating nameable
    have readinessRun : under readiness = .misused := run_config_misused asksReadiness nameable
    have reviewRun : under review = .misused := run_config_misused reviews nameable
    rw [ratingRun, readinessRun, reviewRun]
    exact ⟨Iff.rfl, Iff.rfl, fun impossible => absurd impossible (by decide)⟩

/-- A profile with one action, a session whose mode is not known, and a policy file that makes the action strict. -/
def drillFiles : Files where
  read path :=
    if path = "profile.json" then
      .ok ("\x7b\"id\":\"drill\",\"actions\":\x7b\"set_credits\":" ++
        "\x7b\"id\":\"set_credits\",\"execution_kind\":\"memory\"\x7d\x7d\x7d").toUTF8
    else if path = "session.json" then .ok "\x7b\"process_id\":1\x7d".toUTF8
    else if path = "trainer.yaml" then
      .ok ("strict_bundle: [set_credits]\n" ++ "fallback_actions: \x7b\x7d\n" ++ "symbol_bindings: \x7b\x7d\n" ++
        "float_epsilon: 0.25\n").toUTF8
    else .error .notFound

def drillPolicy : Policy :=
  { Policy.standard with strict := .ofList ["set_credits"], fallbacks := .empty, bindings := .empty, epsilon := 0.25 }

def drillProfile : Profile := (Profile.bare "drill").addAction (.plain "set_credits" .memory)

def drillPolicyText : String :=
  "sdk_gate_env: TRAINER_EXPERIMENTAL_SDK\n" ++ "tactical_mode: tactical\n" ++ "strict_bundle:\n" ++ "- set_credits\n" ++
    "fallback_actions: \x7b\x7d\n" ++ "symbol_bindings: \x7b\x7d\n" ++ "float_epsilon: 0.25\n" ++
    "critical_symbols_key: criticalSymbols\n" ++ "dependency_disabled_key: dependencyDisabledActions\n"

theorem drill_commands_agree :
    let under words := run drillFiles bare ("--config" :: "trainer.yaml" :: words)
    under ["config", "show"] = .printed drillPolicyText ∧ Policy.ofYaml? drillPolicyText = some drillPolicy ∧
      under ["reliability", "--profile", "profile.json", "--session", "session.json"] = .printed
        ("ACTION       STATE        REASON                    CONFIDENCE  NOTE\n" ++
          "-----------  -----------  ------------------------  ----------  -----------------------\n" ++
          "set_credits  unavailable  mode_unknown_strict_gate  0.90        session mode is unknown\n") ∧
      under ["compat", "--profile=profile.json", "-j"] =
        .printed (readinessReport true drillPolicy drillProfile none none none) := by
  have rates : AsksRatings drillFiles ["reliability", "--profile", "profile.json", "--session", "session.json"] false
      drillProfile ⟨1, "", "", .unknown, .empty, .empty⟩ none :=
    ⟨"profile.json", "session.json", none, rfl, by decide +kernel, by decide +kernel, rfl⟩
  have readies : AsksReadiness drillFiles ["compat", "--profile=profile.json", "-j"] true drillProfile none none none :=
    ⟨"profile.json", none, none, none, rfl, by decide +kernel, rfl, rfl, rfl⟩
  have reviews : invocation bare ["config", "validate"] = .ok ⟨none, false, .reviewPolicy⟩ := rfl
  have asks : invocation bare ["config", "show"] = .ok ⟨none, false, .showPolicy⟩ := rfl
  obtain ⟨-, -, agrees⟩ := commands_agree bare "trainer.yaml" rates readies reviews asks
  have review : (run drillFiles bare ["--config", "trainer.yaml", "config", "validate"]).exit = 0 := by decide +kernel
  obtain ⟨policy, loaded, -, shown, shows, rated, readied⟩ := agrees review
  have holds : Policy.load drillFiles "trainer.yaml" = .ok drillPolicy := by decide +kernel
  obtain rfl : drillPolicy = policy := Except.ok.inj (holds.symm.trans loaded)
  have text : policyReport false drillPolicy = drillPolicyText := by decide +kernel
  rw [text] at shown shows
  refine ⟨shown, shows.file rfl, rated.trans (congrArg Outcome.printed ?_), readied⟩
  decide +kernel

end LiveControl.CommandLine
