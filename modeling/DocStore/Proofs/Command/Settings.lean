import DocStore.Command.Settings

/-!
# How settings are resolved

Every setting has places of its own: the command line, a variable of the environment, a default.
`Arguments.resolved` takes each setting from the first of its places that holds one, whatever the
places of the other settings hold.

* `Arguments.config_of_hasCredentials` : with an environment that holds both credentials this is how
  the settings are found;
* `Arguments.config_of_not_hasCredentials` : an environment that lacks a credential counts as empty;
* `Arguments.config_eq_resolved_iff` : exactly when every setting is resolved on its own;
* `Arguments.settings_depend_on_credentials` : a server that is lost, and credentials that are
  refused although they suffice.
-/

namespace DocStore

/-! ### Reading the environment -/

namespace Config

variable {lookup : String → Option String}

/-- Whether both credentials are among the variables. -/
def hasCredentials (lookup : String → Option String) : Bool :=
  (lookup applicationIdVariable).isSome && (lookup apiKeyVariable).isSome

/-- The settings that variables hold beside the credentials. -/
def withVariables (lookup : String → Option String) (applicationId apiKey : String) : Config :=
  { applicationId
    apiKey
    serverUrl := (lookup serverUrlVariable).getD ({} : Config).serverUrl
    apiVersion := (lookup apiVersionVariable).getD ({} : Config).apiVersion
    revocableSessions :=
      ((lookup revocableSessionsVariable).map isAffirmative).getD ({} : Config).revocableSessions }

theorem ofEnvironment_of_some {applicationId apiKey : String}
    (hid : lookup applicationIdVariable = some applicationId)
    (hkey : lookup apiKeyVariable = some apiKey) :
    ofEnvironment lookup = .ok (withVariables lookup applicationId apiKey) := by
  simp only [ofEnvironment, require, hid, hkey]
  rfl

/-- The environment is read if and only if it holds both credentials. -/
theorem exists_ofEnvironment_iff :
    (∃ c, ofEnvironment lookup = .ok c) ↔ hasCredentials lookup = true := by
  unfold hasCredentials
  cases hid : lookup applicationIdVariable with
  | none => simp [ofEnvironment, require, hid, bind, Except.bind]
  | some applicationId =>
    cases hkey : lookup apiKeyVariable with
    | none => simp [ofEnvironment, require, hid, hkey, bind, Except.bind]
    | some apiKey => simp [ofEnvironment_of_some hid hkey]

end Config

namespace Arguments

/-- The configuration in which every setting is the one on the command line, else its variable's,
else the default; none if a credential has no place. -/
def resolved (a : Arguments) (environment : String → Option String) : Option Config := do
  let applicationId ← a.applicationId <|> environment Config.applicationIdVariable
  let apiKey ← a.apiKey <|> environment Config.apiKeyVariable
  let default : Config := {}
  return {
    applicationId
    apiKey
    serverUrl := (a.serverUrl <|> environment Config.serverUrlVariable).getD default.serverUrl
    apiVersion := (environment Config.apiVersionVariable).getD default.apiVersion
    revocableSessions :=
      a.asksRevocable ||
        ((environment Config.revocableSessionsVariable).map Config.isAffirmative).getD
          default.revocableSessions }

variable {a : Arguments} {environment : String → Option String}

/-- A configuration is resolved if and only if each credential is given in one of its places. -/
theorem isSome_resolved :
    (a.resolved environment).isSome ↔
      (a.applicationId.isSome ∨ (environment Config.applicationIdVariable).isSome) ∧
        (a.apiKey.isSome ∨ (environment Config.apiKeyVariable).isSome) := by
  unfold resolved
  cases a.applicationId <;> cases environment Config.applicationIdVariable <;>
    cases a.apiKey <;> cases environment Config.apiKeyVariable <;> simp

/-- Replacing settings of an environment that holds both credentials resolves each on its own. -/
theorem resolved_of_some {applicationId apiKey : String}
    (hid : environment Config.applicationIdVariable = some applicationId)
    (hkey : environment Config.apiKeyVariable = some apiKey) :
    a.resolved environment = some (a.override (.withVariables environment applicationId apiKey)) := by
  simp only [resolved, override, Config.withVariables, hid, hkey]
  cases a.applicationId <;> cases a.apiKey <;> cases a.serverUrl <;> simp [Bool.or_comm]

/-- With an environment that holds both credentials, every setting is resolved on its own. -/
theorem config_of_hasCredentials (h : Config.hasCredentials environment = true) :
    (a.config environment).toOption = a.resolved environment := by
  obtain ⟨hid, hkey⟩ := Bool.and_eq_true_iff.1 h
  obtain ⟨applicationId, hid⟩ := Option.isSome_iff_exists.1 hid
  obtain ⟨apiKey, hkey⟩ := Option.isSome_iff_exists.1 hkey
  rw [resolved_of_some hid hkey, config, baseConfig, Config.ofEnvironment_of_some hid hkey]
  rfl

/-- An environment that lacks a credential counts as empty. -/
theorem config_of_not_hasCredentials (h : ¬Config.hasCredentials environment = true) :
    (a.config environment).toOption = a.resolved fun _ => none := by
  cases hread : Config.ofEnvironment environment with
  | ok c => exact absurd (Config.exists_ofEnvironment_iff.1 ⟨c, hread⟩) h
  | error e =>
    rw [config, baseConfig, hread]
    cases hid : a.applicationId with
    | none => simp [resolved, hid, Except.map, Except.toOption]
    | some applicationId =>
      cases hkey : a.apiKey with
      | none => simp [resolved, hid, hkey, Except.map, Except.toOption]
      | some apiKey => simp [resolved, override, hid, hkey, Except.map, Except.toOption]

/-- Whether a setting beside the credentials that the environment holds is on the command line too or
what it would be anyway. -/
structure Overrules (a : Arguments) (environment : String → Option String) : Prop where
  serverUrl : a.serverUrl.isSome ∨
    (environment Config.serverUrlVariable).getD ({} : Config).serverUrl = ({} : Config).serverUrl
  apiVersion :
    (environment Config.apiVersionVariable).getD ({} : Config).apiVersion = ({} : Config).apiVersion
  revocableSessions : a.asksRevocable = true ∨
    ((environment Config.revocableSessionsVariable).map Config.isAffirmative).getD
      ({} : Config).revocableSessions = ({} : Config).revocableSessions

/-- Settings resolved without any environment are those resolved with it if and only if nothing can be
resolved with it, or the command line gives both credentials and overrules the rest. -/
theorem resolved_empty_eq_iff :
    a.resolved (fun _ => none) = a.resolved environment ↔
      a.resolved environment = none ∨
        (a.applicationId.isSome ∧ a.apiKey.isSome) ∧ a.Overrules environment := by
  cases hid : a.applicationId with
  | none =>
    have hempty : a.resolved (fun _ => none) = none := by simp [resolved, hid]
    rw [hempty]
    simpa using eq_comm
  | some applicationId =>
    cases hkey : a.apiKey with
    | none =>
      have hempty : a.resolved (fun _ => none) = none := by simp [resolved, hkey]
      rw [hempty]
      simpa using eq_comm
    | some apiKey =>
      have hsome : a.resolved environment ≠ none := by simp [resolved, hid, hkey]
      simp only [hsome, false_or, Option.isSome_some, true_and, and_self]
      constructor
      · intro h
        obtain ⟨hserver, hversion, hrevocable⟩ := by simpa [resolved, hid, hkey] using h
        refine ⟨?_, hversion.symm, ?_⟩
        · cases hurl : a.serverUrl with
          | none => exact .inr (by simpa [hurl] using hserver.symm)
          | some url => exact .inl rfl
        · cases hasks : a.asksRevocable with
          | true => exact .inl rfl
          | false => exact .inr (by simpa [hasks] using hrevocable)
      · rintro ⟨hserver, hversion, hrevocable⟩
        have hurl : a.serverUrl.getD ({} : Config).serverUrl =
            a.serverUrl.getD
              ((environment Config.serverUrlVariable).getD ({} : Config).serverUrl) := by
          obtain hurl | hdefault := hserver
          · obtain ⟨url, hurl⟩ := Option.isSome_iff_exists.1 hurl
            rw [hurl]
            rfl
          · rw [hdefault]
        have hasks : a.asksRevocable = (a.asksRevocable ||
            ((environment Config.revocableSessionsVariable).map Config.isAffirmative).getD
              ({} : Config).revocableSessions) := by
          obtain hasks | hdefault := hrevocable
          · rw [hasks, Bool.true_or]
          · rw [hdefault, Bool.or_false]
        simp [resolved, hid, hkey, hversion, ← hurl, ← hasks]

/-- **Every setting is resolved on its own if and only if** the environment holds both credentials, or
one credential has no place at all, or the command line gives both credentials and overrules all that
the environment holds besides.  Resolved that way, there is a configuration exactly if each credential
is given in one of its places, and each setting comes from the first of its places that holds one. -/
theorem config_eq_resolved_iff (a : Arguments) (environment : String → Option String) :
    ((a.resolved environment).isSome ↔
        (a.applicationId.isSome ∨ (environment Config.applicationIdVariable).isSome) ∧
          (a.apiKey.isSome ∨ (environment Config.apiKeyVariable).isSome)) ∧
      ((a.config environment).toOption = a.resolved environment ↔
        Config.hasCredentials environment = true ∨ a.resolved environment = none ∨
          (a.applicationId.isSome ∧ a.apiKey.isSome) ∧ a.Overrules environment) := by
  refine ⟨isSome_resolved, ?_⟩
  by_cases h : Config.hasCredentials environment = true
  · exact iff_of_true (config_of_hasCredentials h) (.inl h)
  · rw [config_of_not_hasCredentials h, resolved_empty_eq_iff]
    exact (or_iff_right h).symm

/-- **Settings depend on credentials that are missing elsewhere**: with both credentials on the
command line, the server named by the environment gives way to the default one; and with one
credential in each place, which is enough, there is no configuration. -/
theorem settings_depend_on_credentials :
    (let a : Arguments :=
        { applicationId := some "a", apiKey := some "k", command := .resetPassword "ann@example.com" }
      let environment := fun name =>
        if name = Config.serverUrlVariable then some "https://own.example.com" else none
      (a.config environment).toOption.map Config.serverUrl = some "https://api.parse.com" ∧
        (a.resolved environment).map Config.serverUrl = some "https://own.example.com") ∧
      (let a : Arguments := { applicationId := some "a", command := .resetPassword "ann@example.com" }
        let environment := fun name => if name = Config.apiKeyVariable then some "k" else none
        (a.config environment).toOption = none ∧ (a.resolved environment).isSome) := by
  decide

end Arguments

end DocStore
