import Promch.K8sSecrets
import Promch.Handlers.Answers
import Promch.Handlers.ConnectionAccounts

/-!
# The credentials of the connections

The operator resolves the credentials of a connection from a Secret, which the API
server delivers in encoded form.  In whatever order the handlers run, a connection
logs in with what the owner of the Secret stored there.
-/

namespace Promch

open EventLoop

namespace BuiltConnection

/-- The username that counts when the Secret has none. -/
def defaultUsername (connection : BuiltConnection) : String :=
  connection.resource.username.getD "default"

/-- The connection logs in with what is stored in a version of its Secret. -/
structure LogsInFrom
    (connection : BuiltConnection)
    (ref : AuthSecretRef)
    (content : Dict String (List UInt8)) : Prop where
  password : content.get? (ref.passwordKey.getD "password") =
    some (utf8 connection.spec.password)
  /-- A stored username that is no text counts as none. -/
  username : content.get? (ref.usernameKey.getD "username") =
      some (utf8 connection.spec.username) ∨
    (∀ text, content.get? (ref.usernameKey.getD "username") ≠ some (utf8 text)) ∧
      connection.spec.username = connection.defaultUsername

/-- The connection logs in with a version of the Secret that its resource refers to,
and without a password if it refers to none. -/
def HasStoredCredentials
    (connection : BuiltConnection)
    (versions : String → List (Dict String (List UInt8))) : Prop :=
  match connection.resource.authSecretRef with
  | none =>
      connection.spec.password = "" ∧ connection.spec.username = connection.defaultUsername
  | some ref => ∃ content ∈ versions ref.name, connection.LogsInFrom ref content

end BuiltConnection

/-- The reader makes the data of a Secret from an answer. -/
def SecretResponse.isReadAs
    (response : SecretResponse)
    (secretNamespace name : String)
    (data : Dict String String) : Bool :=
  match readSecret secretNamespace name response with
  | .ok texts => texts.entries = data.entries
  | .error _ => false

theorem SecretResponse.eq_of_isReadAs
    {response : SecretResponse}
    {secretNamespace name : String}
    {data : Dict String String}
    (read : response.isReadAs secretNamespace name data = true) :
    readSecret secretNamespace name response = .ok data := by
  unfold isReadAs at read
  split at read
  · next texts decoded => rw [decoded, Dict.ext_entries (of_decide_eq_true read)]
  · cases read

/-- What a handler reads of a Secret is what the reader makes of an answer of the
API server. -/
def readsFrom
    (responses : String → String → List SecretResponse)
    (_ : RegistrySystem) : RegistryAction → Bool
  | .answer _ (.readSecret _ _ secretNamespace name) (.ok data) =>
      (responses secretNamespace name).any (·.isReadAs secretNamespace name data)
  | _ => true

/-- Data are the texts in a version of a Secret. -/
def IsVersionOf
    (data : Dict String String)
    (versions : List (Dict String (List UInt8))) : Prop :=
  ∃ content ∈ versions, ∀ key text,
    data.get? key = some text ↔ content.get? key = some (utf8 text)

/-- What the handlers know of the Secrets that they read. -/
def secretFacts (versions : String → String → List (Dict String (List UInt8))) : AnswerFacts where
  secret secretNamespace name data := IsVersionOf data (versions secretNamespace name)

/-- The answers of the server show what is stored. -/
theorem secretFacts_genuine
    {responses : String → String → List SecretResponse}
    {versions : String → String → List (Dict String (List UInt8))}
    {before : RegistrySystem}
    {task : Nat}
    {request : RegistryRequest}
    {outcome : Except HandlerFault request.Answer}
    (shown : ∀ secretNamespace name, ∀ response ∈ responses secretNamespace name,
      response.status = 200 → ∃ content ∈ versions secretNamespace name, response.Shows content)
    (met : readsFrom responses before (.answer task request outcome) = true) :
    (secretFacts versions).Genuine request outcome := by
  cases request with
  | readSecret key spec secretNamespace name =>
      cases outcome with
      | error fault => trivial
      | ok data =>
          obtain ⟨response, answered, read⟩ := List.any_eq_true.mp met
          have decoded := SecretResponse.eq_of_isReadAs read
          have found : response.status = 200 := by
            apply Classical.byContradiction
            intro other
            simp only [readSecret, if_pos other] at decoded
            split at decoded <;> cases decoded
          obtain ⟨content, stored, shows⟩ := shown secretNamespace name response answered found
          obtain ⟨texts, same, exactly⟩ := readSecret_of_shows secretNamespace name shows
          cases decoded.symm.trans same
          exact ⟨content, stored, exactly⟩
  | close successor conn | discover pass conn
  | executeSystemQuery conn sql timeout nodeLabel | executeDataQuery conn sql timeout =>
      cases outcome <;> trivial

/-- The namespace of the operator does not change. -/
theorem operatorNamespace_of_reaches
    {condition : RegistrySystem → RegistryAction → Prop}
    {config : SchedulerConfig}
    {operatorNamespace : String}
    {clock : Nat → ClockReading}
    {memberHosts : Nat → Nat → List String}
    {system : RegistrySystem}
    (reaches : registryLoop.Reaches condition
      (RegistrySystem.start config operatorNamespace clock memberHosts) system) :
    system.state.operatorNamespace = operatorNamespace := by
  refine Machine.Reaches.keeps (fun state _ => state.operatorNamespace = operatorNamespace)
    reaches ?_ ?_ rfl
  · intro effect state _ same
    exact RegistryState.operatorNamespace_apply.trans same
  · exact fun _ _ _ same => same

/-- What the credentials in the texts of a Secret amount to. -/
theorem BuiltConnection.logsInFrom_of_credentialsOf
    {connection : BuiltConnection}
    {ref : AuthSecretRef}
    {secretNamespace : String}
    {data : Dict String String}
    {content : Dict String (List UInt8)}
    (resolved : credentialsOf secretNamespace ref data = .ok connection.credentials)
    (exactly : ∀ key text, data.get? key = some text ↔ content.get? key = some (utf8 text)) :
    connection.LogsInFrom ref content := by
  unfold credentialsOf at resolved
  cases password : data.get? (ref.passwordKey.getD "password") with
  | none => simp [password] at resolved
  | some text =>
      simp only [password, Except.ok.injEq] at resolved
      constructor
      · have same : connection.spec.password = text := congrArg Credentials.password resolved.symm
        rw [same]
        exact (exactly _ _).mp password
      · have own : connection.spec.username =
            (data.get? (ref.usernameKey.getD "username")).getD connection.defaultUsername :=
          congrArg (fun credentials : Credentials =>
            credentials.usernameOverride.getD connection.defaultUsername) resolved.symm
        cases username : data.get? (ref.usernameKey.getD "username") with
        | none =>
            refine .inr ⟨fun text stored => ?_, by rw [own, username]; rfl⟩
            rw [(exactly _ _).mpr stored] at username
            cases username
        | some text =>
            left
            have same : connection.spec.username = text := by rw [own, username]; rfl
            rw [same]
            exact (exactly _ _).mp username

/-- Whatever the order of the handlers, every connection that was ever built logs in
with what the owner of its Secret had stored there. -/
theorem storedCredentials_of_reaches
    {config : SchedulerConfig}
    {operatorNamespace : String}
    {clock : Nat → ClockReading}
    {memberHosts : Nat → Nat → List String}
    {responses : String → String → List SecretResponse}
    {versions : String → String → List (Dict String (List UInt8))}
    {system : RegistrySystem}
    (shown : ∀ secretNamespace name, ∀ response ∈ responses secretNamespace name,
      response.status = 200 → ∃ content ∈ versions secretNamespace name, response.Shows content)
    (reaches : registryLoop.Reaches (fun before action => readsFrom responses before action)
      (RegistrySystem.start config operatorNamespace clock memberHosts) system) :
    ∀ connection ∈ system.state.built,
      connection.HasStoredCredentials (versions operatorNamespace) := by
  intro connection member
  have sound := freePolicy.sound_of_reaches trivial
    (fun before action _ => freePolicy_permits before action) reaches
  have resolved := sound.invariant.1.resolved connection member
  have recorded := ((secretFacts versions).of_reaches
    (fun _ _ _ _ met => secretFacts_genuine shown met) reaches).1
  unfold RegistryState.Resolved at resolved
  unfold BuiltConnection.HasStoredCredentials
  cases reference : connection.resource.authSecretRef with
  | none =>
      simp only [reference] at resolved
      simp [BuiltConnection.spec, resolved, noCredentials, specToConnectionSpec,
        BuiltConnection.defaultUsername]
  | some ref =>
      simp only [reference] at resolved
      obtain ⟨data, read, found⟩ := resolved
      obtain ⟨content, stored, exactly⟩ := recorded _ _ _ read
      rw [operatorNamespace_of_reaches reaches] at stored
      exact ⟨content, stored, BuiltConnection.logsInFrom_of_credentialsOf found exactly⟩

theorem storedCredentials_after_read :
    ∃ system : RegistrySystem,
      system.state.built.map (fun connection => connection.spec.password) = ["s3cret"] ∧
        ∀ connection ∈ system.state.built,
          connection.HasStoredCredentials fun _ => [storedSecret] := by
  obtain ⟨system, reaches, found⟩ :=
    RegistrySystem.exists_reached (readsFrom fun _ _ => [secretAnswer])
      [.start (.present none "x" secretResource), .begin 0,
        .answer 0 (.readSecret ("", "x") secretResource "operator" "s")
          (.ok (Dict.empty.set "password" "s3cret"))]
      (fun system =>
        system.state.built.map (fun connection => connection.spec.password) = ["s3cret"])
      (by decide +kernel)
  have shown : ∀ secretNamespace name : String, ∀ response ∈ [secretAnswer],
      response.status = 200 →
        ∃ content ∈ (fun _ _ => [storedSecret]) secretNamespace name, response.Shows content := by
    intro _ _ response member _
    obtain rfl := List.mem_singleton.mp member
    exact ⟨storedSecret, List.mem_singleton_self _, secretAnswer_shows⟩
  exact ⟨system, of_decide_eq_true found, storedCredentials_of_reaches shown reaches⟩

end Promch
