/-! The properties a configuration may set. Their order is the order of declaration, and it is the
order in which configurations are listed, shown and evaluated. -/

namespace CredentialResolution
set_option autoImplicit false

inductive Property
  | useDefault
  | accessKey
  | secretKey
  | credentialsFile
  | profile
  | useAnonymous
  | roleArn
  | roleSessionName
  | sessionTime
  | externalId
  | proxyHost
  | proxyPort
  | webRoleArn
  | webSessionName
  | webTokenFile
  deriving DecidableEq, Repr

namespace Property

def all : List Property :=
  [useDefault, accessKey, secretKey, credentialsFile, profile, useAnonymous, roleArn,
    roleSessionName, sessionTime, externalId, proxyHost, proxyPort, webRoleArn, webSessionName,
    webTokenFile]

/-- The name under which configurations and documents hold the property. -/
def name : Property → String
  | useDefault => "use_default_credentials"
  | accessKey => "access_key"
  | secretKey => "secret_key"
  | credentialsFile => "credentials_file"
  | profile => "profile_name"
  | useAnonymous => "use_anonymous_credentials"
  | roleArn => "assume_role_arn"
  | roleSessionName => "assume_role_name"
  | sessionTime => "max_session_time"
  | externalId => "assume_role_external_id"
  | proxyHost => "assume_role_proxy_host"
  | proxyPort => "assume_role_proxy_port"
  | webRoleArn => "web_identity_role_arn"
  | webSessionName => "web_identity_role_session_name"
  | webTokenFile => "web_identity_token_file"

/-- The name that messages show. -/
def displayName : Property → String
  | useDefault => "Use Default Credentials"
  | accessKey => "Access Key ID"
  | secretKey => "Secret Access Key"
  | credentialsFile => "Credentials File"
  | profile => "Profile Name"
  | useAnonymous => "Use Anonymous Credentials"
  | roleArn => "Assume Role ARN"
  | roleSessionName => "Assume Role Session Name"
  | sessionTime => "Assume Role Session Time"
  | externalId => "Assume Role External ID"
  | proxyHost => "Assume Role Proxy Host"
  | proxyPort => "Assume Role Proxy Port"
  | webRoleArn => "Web Identity Role ARN"
  | webSessionName => "Web Identity Role Session Name"
  | webTokenFile => "Web Identity Token File"

/-- The value that stands in when none is given. -/
def default? : Property → Option String
  | useDefault | useAnonymous => some "false"
  | sessionTime => some "3600"
  | _ => none

/-- Whether the value may hold expressions; those of flags and of the credentials file may not. -/
def supportsExpression : Property → Bool
  | useDefault | credentialsFile | useAnonymous => false
  | _ => true

def isSecret : Property → Bool
  | secretKey => true
  | _ => false

/-- A name that is no property's. -/
structure UnknownName where
  name : String
  deriving DecidableEq, Repr

def UnknownName.message (e : UnknownName) : String :=
  "`" ++ e.name ++ "` is not a supported credentials property"

def ofName (s : String) : Except UnknownName Property :=
  match all.find? (fun p => p.name == s) with
  | some p => .ok p
  | none => .error ⟨s⟩

theorem mem_all (p : Property) : p ∈ all := by cases p <;> decide

theorem all_nodup : all.Nodup := by decide

@[simp] theorem ofName_name (p : Property) : ofName p.name = .ok p := by cases p <;> rfl

theorem name_injective {p q : Property} (h : p.name = q.name) : p = q := by
  have := congrArg ofName h
  simpa using this

theorem ofName_eq_ok_iff {s : String} {p : Property} : ofName s = .ok p ↔ p.name = s := by
  constructor
  · intro h
    unfold ofName at h
    split at h
    · rename_i q hq
      have := List.find?_some hq
      simp_all
    · simp at h
  · rintro rfl
    exact ofName_name p

theorem ofName_eq_error_iff {s : String} {e : UnknownName} :
    ofName s = .error e ↔ e = ⟨s⟩ ∧ ∀ p : Property, p.name ≠ s := by
  cases h : ofName s with
  | ok p => simpa using fun _ => ⟨p, ofName_eq_ok_iff.mp h⟩
  | error f =>
    have hnone : ∀ p : Property, p.name ≠ s := by
      intro p hp
      rw [ofName_eq_ok_iff.mpr hp] at h
      cases h
    have hf : f = ⟨s⟩ := by
      unfold ofName at h
      split at h
      · cases h
      · exact (Except.error.inj h).symm
    rw [and_iff_left hnone, Except.error.injEq, hf, eq_comm]

end Property
end CredentialResolution
