import KisAuth.Config.Environment

/-
  When the service starts, and what the checks before a
  deployment say of it.

  The configuration loads exactly when the script passes and
  the previous keys are readable. Otherwise the error names
  the first variable there is something wrong with. No check
  prints a value.

  Key definitions include:
    * `firstProblem`, `fieldsOfVariables`, `ReadFrom`
    * `ConfigStep`, `ConfigProcess`
    * `StartupChecked`

  Key theorems include:
    * `firstProblem_readConfig`
    * `verifyProductionEnv_eq`
    * `startup_checked`
-/

------------------------------------------------------------
-- What Is Checked
------------------------------------------------------------

namespace KisAuth

/- The error of a check, if it fails. -/
def problemOf {α : Type} : Except String α → Option String
| .ok _ => none
| .error message => some message

def previousKeysOf
    (buffer : BufferText)
    (env : Env) : Except String (List PreviousKey) :=
  parsePreviousKeys buffer (env "KISAUTH_JWT_PREVIOUS_KEYS")

/- The problem of a required variable, if it is not set. -/
def missingProblem (env : Env) (name : String) :
    Option String :=
  if env.isSet name then none else some (missingVariable name)

/-
  The first problem of an environment. The previous keys are
  read before the last of the required variables.
-/
def firstProblem
    (buffer : BufferText)
    (env : Env) : Option String :=
  (requiredVarNames.take 9).foldr
    (fun name later => (missingProblem env name).or later)
    ((problemOf (previousKeysOf buffer env)).or
      (missingProblem env "KISAUTH_INTERNAL_HMAC_SECRET"))

/- Where each required variable is read to. -/
def fieldsOfVariables :
    List (String × (LoadedConfig → String)) :=
  [("KISAUTH_BASE_URL", fun config => config.baseUrl),
    ("GOOGLE_OAUTH_CLIENT_ID",
      fun config => config.googleClientId),
    ("GOOGLE_OAUTH_CLIENT_SECRET",
      fun config => config.googleClientSecret),
    ("GOOGLE_OAUTH_REDIRECT_URI",
      fun config => config.googleRedirectUri),
    ("KISAUTH_DATABASE_URL", fun config => config.databaseUrl),
    ("KISAUTH_REDIS_URL", fun config => config.redisUrl),
    ("KISAUTH_JWT_PRIVATE_KEY",
      fun config => config.jwtPrivateKeyPem),
    ("KISAUTH_JWT_PUBLIC_KEY",
      fun config => config.jwtPublicKeyPem),
    ("KISAUTH_JWT_KID", fun config => config.jwtKid),
    ("KISAUTH_INTERNAL_HMAC_SECRET",
      fun config => config.internalHmacSecret)]

/- A configuration with the values of an environment. -/
structure ReadFrom
    (buffer : BufferText)
    (env : Env)
    (config : LoadedConfig) : Prop where
  fields :
    ∀ field ∈ fieldsOfVariables,
      env field.1 = some (field.2 config)
  previousKeys :
    previousKeysOf buffer env = .ok config.jwtPreviousKeys

variable {P : Platform} {buffer : BufferText} {env : Env}
variable {name : String}

/- A value that is good, or the problem there is. -/
def Agrees
    {α : Type}
    (result : Except String α)
    (problem : Option String)
    (Good : α → Prop) : Prop :=
  (∃ value,
      result = .ok value ∧ problem = none ∧ Good value) ∨
    ∃ message,
      result = .error message ∧ problem = some message

theorem setValue_eq_some
    {value : String}
    (hValue : env.setValue name = some value) :
    env name = some value := by
  unfold Env.setValue at hValue
  split at hValue
  · simp at hValue
  · next found hFound =>
      split at hValue
      · simp at hValue
      · rw [hFound]
        exact hValue

/- A required variable is read, or it is the problem. -/
theorem agrees_required
    (env : Env)
    (name : String) :
    Agrees (env.required name) (missingProblem env name)
      (fun value => env name = some value) := by
  unfold Env.required missingProblem Env.isSet
  cases hValue : env.setValue name with
  | none => exact Or.inr ⟨_, rfl, rfl⟩
  | some value =>
      exact Or.inl ⟨value, rfl, rfl, setValue_eq_some hValue⟩

theorem agrees_problemOf
    {α : Type}
    (result : Except String α) :
    Agrees result (problemOf result)
      (fun value => result = .ok value) := by
  cases result with
  | ok value => exact Or.inl ⟨value, rfl, rfl, rfl⟩
  | error message => exact Or.inr ⟨message, rfl, rfl⟩

/- The first problem of a sequence is the first of its parts. -/
theorem Agrees.andThen
    {α β : Type}
    {result : Except String α}
    {next : α → Except String β}
    {problem later : Option String}
    {Good : α → Prop}
    {Better : β → Prop}
    (hFirst : Agrees result problem Good)
    (hNext :
      ∀ value,
        Good value → Agrees (next value) later Better) :
    Agrees (result >>= next) (problem.or later) Better := by
  rcases hFirst with
    ⟨value, rfl, rfl, hGood⟩ | ⟨message, rfl, rfl⟩
  · exact hNext value hGood
  · exact Or.inr ⟨message, rfl, rfl⟩

/-
  The configuration is read with each required variable in
  its own field, or there is the first problem.
-/
theorem firstProblem_readConfig :
    Agrees (readConfig P buffer env) (firstProblem buffer env)
      (ReadFrom buffer env) := by
  unfold readConfig firstProblem
  apply (agrees_required env _).andThen
  intro baseUrl hBaseUrl
  apply (agrees_required env _).andThen
  intro googleClientId hGoogleClientId
  apply (agrees_required env _).andThen
  intro googleClientSecret hGoogleClientSecret
  apply (agrees_required env _).andThen
  intro googleRedirectUri hGoogleRedirectUri
  apply (agrees_required env _).andThen
  intro databaseUrl hDatabaseUrl
  apply (agrees_required env _).andThen
  intro redisUrl hRedisUrl
  apply (agrees_required env _).andThen
  intro jwtPrivateKeyPem hJwtPrivateKeyPem
  apply (agrees_required env _).andThen
  intro jwtPublicKeyPem hJwtPublicKeyPem
  apply (agrees_required env _).andThen
  intro jwtKid hJwtKid
  apply (agrees_problemOf _).andThen
  intro jwtPreviousKeys hJwtPreviousKeys
  rw [← Option.or_none
    (o := missingProblem env "KISAUTH_INTERNAL_HMAC_SECRET")]
  apply (agrees_required env _).andThen
  intro internalHmacSecret hInternalHmacSecret
  refine Or.inl ⟨_, rfl, rfl, ?_, hJwtPreviousKeys⟩
  simp [fieldsOfVariables, *]

theorem readConfig_ok
    {config : LoadedConfig}
    (hRead : readConfig P buffer env = .ok config) :
    ReadFrom buffer env config := by
  have hAgrees : Agrees (readConfig P buffer env) _ _ :=
    firstProblem_readConfig
  rcases hAgrees with
    ⟨found, hFound, _, hGood⟩ | ⟨message, hFound, _⟩
  · rw [hRead] at hFound
    cases hFound
    exact hGood
  · rw [hRead] at hFound
    cases hFound

end KisAuth

------------------------------------------------------------
-- The Script
------------------------------------------------------------

namespace KisAuth

variable {P : Platform} {buffer : BufferText}
variable {env env' : Env}

/- The required variables that are not set. -/
def missingNames (env : Env) : List String :=
  requiredVarNames.filter (fun name => !env.isSet name)

/- What the loop has printed and counted. -/
theorem foldl_checkNext
    (env : Env)
    (names : List String)
    (done : List String × Nat) :
    names.foldl (checkNext env) done =
      (done.1 ++ names.map (checkLine env),
        done.2 +
          (names.filter (fun name => !env.isSet name)).length) := by
  induction names generalizing done with
  | nil => simp
  | cons name rest ih =>
      rw [List.foldl_cons, ih]
      cases hSet : env.isSet name with
      | true => simp [checkNext, hSet]
      | false =>
          simp [checkNext, hSet]
          omega

/- What the script prints, and how it exits. -/
theorem verifyProductionEnv_eq (env : Env) :
    verifyProductionEnv env =
      if missingNames env = [] then
        { output :=
            printEnvCheck env ++
              ["\nAll required variables are set."]
          errors := []
          exitCode := 0 }
      else
        { output := printEnvCheck env
          errors :=
            ["\n" ++ toString (missingNames env).length ++
              " required variable(s) missing."]
          exitCode := 1 } := by
  unfold verifyProductionEnv
  rw [foldl_checkNext]
  simp only [List.nil_append, Nat.zero_add]
  by_cases hNone : missingNames env = []
  · have hLength :
        (requiredVarNames.filter
          (fun name => !env.isSet name)).length = 0 :=
      List.length_eq_zero_iff.mpr hNone
    rw [if_pos hNone, hLength]
    rfl
  · have hLength :
        0 <
          (requiredVarNames.filter
            (fun name => !env.isSet name)).length :=
      List.length_pos_iff.mpr hNone
    rw [if_neg hNone, if_pos hLength]
    rfl

/- The same variables are set. -/
def SameSet (env env' : Env) : Prop :=
  ∀ name ∈ requiredVarNames, env.isSet name = env'.isSet name

theorem printEnvCheck_same (hSame : SameSet env env') :
    printEnvCheck env = printEnvCheck env' := by
  apply List.map_congr_left
  intro name hName
  rw [checkLine, checkLine, hSame name hName]

theorem verifyProductionEnv_same (hSame : SameSet env env') :
    verifyProductionEnv env = verifyProductionEnv env' := by
  have hMissing : missingNames env = missingNames env' := by
    apply List.filter_congr
    intro name hName
    rw [hSame name hName]
  rw [verifyProductionEnv_eq, verifyProductionEnv_eq, hMissing,
    printEnvCheck_same hSame]

theorem exitCode_eq_zero_iff :
    (verifyProductionEnv env).exitCode = 0 ↔
      ∀ name ∈ requiredVarNames, env.isSet name = true := by
  have hNone :
      missingNames env = [] ↔
        ∀ name ∈ requiredVarNames, env.isSet name = true := by
    simp [missingNames, List.filter_eq_nil_iff]
  rw [← hNone, verifyProductionEnv_eq]
  split
  · next hMissing => simp [hMissing]
  · next hMissing => simp [hMissing]

/- Nothing is wrong where all is set and readable. -/
theorem firstProblem_eq_none_iff :
    firstProblem buffer env = none ↔
      (∀ name ∈ requiredVarNames, env.isSet name = true) ∧
        ∃ keys, previousKeysOf buffer env = .ok keys := by
  have hKeys :
      problemOf (previousKeysOf buffer env) = none ↔
        ∃ keys, previousKeysOf buffer env = .ok keys := by
    cases previousKeysOf buffer env with
    | ok keys => simp [problemOf]
    | error message => simp [problemOf]
  have hName :
      ∀ name,
        missingProblem env name = none ↔
          env.isSet name = true := by
    intro name
    unfold missingProblem
    split
    · next hSet => simp [hSet]
    · next hSet => simp [hSet]
  simp only [firstProblem, requiredVarNames, List.take,
    List.foldr, Option.or_eq_none_iff, hKeys, hName,
    List.forall_mem_cons]
  tauto

end KisAuth

------------------------------------------------------------
-- The Configuration Of A Process
------------------------------------------------------------

namespace KisAuth

/- What happens to a process and its environment. -/
inductive ConfigStep where
  | setEnv (env : Env)
  | load
  | resetCache

/- The environment, and what `cached` is. -/
structure ConfigProcess where
  env : Env
  cached : Option LoadedConfig

variable (P : Platform) (buffer : BufferText)

def ConfigProcess.load (process : ConfigProcess) :
    Except String LoadedConfig :=
  (loadConfig P buffer process.env process.cached).1

def ConfigProcess.step
    (process : ConfigProcess) : ConfigStep → ConfigProcess
| .setEnv env => { process with env := env }
| .load =>
    { process with
      cached :=
        (loadConfig P buffer process.env process.cached).2 }
| .resetCache =>
    { process with cached := resetConfigCacheForTests }

/- A process that was started in an environment. -/
def processAfter
    (env : Env)
    (steps : List ConfigStep) : ConfigProcess :=
  steps.foldl (ConfigProcess.step P buffer) ⟨env, none⟩

variable {P : Platform} {buffer : BufferText}
variable {env : Env} {steps : List ConfigStep}

/- The configuration was loaded, and not reset since. -/
def LoadedBefore
    (P : Platform)
    (buffer : BufferText)
    (env : Env)
    (steps : List ConfigStep)
    (config : LoadedConfig) : Prop :=
  ∃ before later,
    steps = before ++ .load :: later ∧
      ConfigStep.resetCache ∉ later ∧
      readConfig P buffer (processAfter P buffer env before).env =
        .ok config

theorem processAfter_append (step : ConfigStep) :
    processAfter P buffer env (steps ++ [step]) =
      (processAfter P buffer env steps).step P buffer step := by
  simp [processAfter]

/- The cache holds what was loaded first since the reset. -/
theorem cached_loadedBefore
    {config : LoadedConfig}
    (hCached :
      (processAfter P buffer env steps).cached = some config) :
    LoadedBefore P buffer env steps config := by
  induction steps using List.reverseRecOn with
  | nil => simp [processAfter] at hCached
  | append_singleton earlier step ih =>
      rw [processAfter_append] at hCached
      cases step with
      | setEnv env' =>
          rcases ih hCached with
            ⟨before, later, rfl, hReset, hRead⟩
          exact
            ⟨before, later ++ [.setEnv env'], by simp,
              by simpa using hReset, hRead⟩
      | resetCache => simp [ConfigProcess.step,
          resetConfigCacheForTests] at hCached
      | load =>
          simp only [ConfigProcess.step, loadConfig] at hCached
          split at hCached
          · next found hFound =>
              rw [Option.some.injEq] at hCached
              subst hCached
              rcases ih hFound with
                ⟨before, later, rfl, hReset, hRead⟩
              exact
                ⟨before, later ++ [.load], by simp,
                  by simpa using hReset, hRead⟩
          · split at hCached
            · next read hRead =>
                rw [Option.some.injEq] at hCached
                subst hCached
                exact ⟨earlier, [], rfl, by simp, hRead⟩
            · simp at hCached

/- A configuration that is kept stays until the reset. -/
theorem cached_stays
    {later : List ConfigStep}
    {config : LoadedConfig}
    (hCached :
      (processAfter P buffer env steps).cached = some config)
    (hReset : ConfigStep.resetCache ∉ later) :
    (processAfter P buffer env (steps ++ later)).cached =
      some config := by
  induction later using List.reverseRecOn with
  | nil => simpa using hCached
  | append_singleton later step ih =>
      rw [List.mem_append, not_or, List.mem_singleton] at hReset
      have hBefore := ih hReset.1
      rw [← List.append_assoc, processAfter_append]
      cases step with
      | setEnv env' => exact hBefore
      | resetCache => exact absurd rfl hReset.2
      | load =>
          simp only [ConfigProcess.step, loadConfig, hBefore]

/- What is loaded is kept. -/
theorem cached_of_load
    {config : LoadedConfig}
    (hLoad :
      (processAfter P buffer env steps).load P buffer =
        .ok config) :
    (processAfter P buffer env (steps ++ [.load])).cached =
      some config := by
  rw [processAfter_append]
  simp only [ConfigProcess.step]
  unfold ConfigProcess.load loadConfig at hLoad
  unfold loadConfig
  split at hLoad
  · simpa using hLoad
  · split at hLoad
    · simpa using hLoad
    · simp at hLoad

theorem load_of_cached
    {config : LoadedConfig}
    (hCached :
      (processAfter P buffer env steps).cached = some config) :
    (processAfter P buffer env steps).load P buffer =
      .ok config := by
  unfold ConfigProcess.load loadConfig
  rw [hCached]

/- A process that has kept nothing reads its environment. -/
theorem load_of_none
    (hCached : (processAfter P buffer env steps).cached = none) :
    (processAfter P buffer env steps).load P buffer =
      readConfig P buffer
        (processAfter P buffer env steps).env := by
  unfold ConfigProcess.load loadConfig
  rw [hCached]
  cases readConfig P buffer (processAfter P buffer env steps).env
  · rfl
  · rfl

end KisAuth

------------------------------------------------------------
-- Startup
------------------------------------------------------------

namespace KisAuth

/-
  What loading gives after any steps of a process, and what
  the script says of its environment.
-/
structure StartupChecked
    (P : Platform)
    (buffer : BufferText)
    (env : Env)
    (steps : List ConfigStep) : Prop where
  first :
    (∀ config, ¬LoadedBefore P buffer env steps config) →
      Agrees
        ((processAfter P buffer env steps).load P buffer)
        (firstProblem buffer
          (processAfter P buffer env steps).env)
        (ReadFrom buffer (processAfter P buffer env steps).env)
  kept :
    ∀ config later,
      (processAfter P buffer env steps).load P buffer =
          .ok config →
        ConfigStep.resetCache ∉ later →
          (processAfter P buffer env
              (steps ++ .load :: later)).load P buffer =
            .ok config
  script :
    firstProblem buffer (processAfter P buffer env steps).env =
        none ↔
      (verifyProductionEnv
            (processAfter P buffer env steps).env).exitCode =
          0 ∧
        ∃ keys,
          previousKeysOf buffer
              (processAfter P buffer env steps).env =
            .ok keys
  silent :
    ∀ other,
      SameSet (processAfter P buffer env steps).env other →
        verifyProductionEnv
              (processAfter P buffer env steps).env =
            verifyProductionEnv other ∧
          printEnvCheck (processAfter P buffer env steps).env =
            printEnvCheck other

/-
  A process loads the first environment nothing is wrong
  with, as the script finds it, and keeps to it.
-/
theorem startup_checked
    (P : Platform)
    (buffer : BufferText)
    (env : Env)
    (steps : List ConfigStep) :
    StartupChecked P buffer env steps where
  first := by
    intro hNone
    have hCached :
        (processAfter P buffer env steps).cached = none := by
      cases hSome :
          (processAfter P buffer env steps).cached with
      | none => rfl
      | some config =>
          exact absurd (cached_loadedBefore hSome) (hNone config)
    rw [load_of_none hCached]
    exact firstProblem_readConfig
  kept := by
    intro config later hLoad hReset
    apply load_of_cached
    rw [List.append_cons]
    exact cached_stays (cached_of_load hLoad) hReset
  script := by
    rw [firstProblem_eq_none_iff, exitCode_eq_zero_iff]
  silent := by
    intro other hSame
    exact
      ⟨verifyProductionEnv_same hSame, printEnvCheck_same hSame⟩

end KisAuth
