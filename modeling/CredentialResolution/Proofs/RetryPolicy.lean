import CredentialResolution.Sts.Retry

/-! The retry policy as a list of grounds. A failure may give several at once, whatever code and status
come with it; the first kind for which it gives one is the kind of the retry, and a failure that gives
none is final. -/

namespace CredentialResolution.Sts
set_option autoImplicit false

/-- The faults of a connection that pass. -/
def ConnectionFault.Passes (fault : ConnectionFault) : Prop := fault = io ∨ fault = timeout

/-- The faults of the service that pass, whatever code they have. -/
def Fault.Passes (fault : Fault) : Prop := fault = idpCommunication ∨ fault = invalidIdentityToken

/-- What speaks for another attempt, and of which kind. Only a refusal of the exchange itself has a code
that counts, and no status counts where there was no connection. -/
inductive Grounds : Attempt → RetryKind → Prop
  | timeout {status : Option Nat} : Grounds ⟨some .timeout, status⟩ .transient
  | connection {fault : ConnectionFault} {status : Option Nat} (h : fault.Passes) :
    Grounds ⟨some (.connection fault), status⟩ .transient
  | refused {fault : Fault} {code : Option String} {status : Option Nat} (h : fault.Passes) :
    Grounds ⟨some (.refused fault code), status⟩ .transient
  | throttled {fault : Fault} {code : String} {status : Option Nat} (h : code ∈ throttlingCodes) :
    Grounds ⟨some (.refused fault (some code)), status⟩ .throttling
  | skewed {fault : Fault} {code : String} {status : Option Nat} (h : code ∈ clockSkewCodes) :
    Grounds ⟨some (.refused fault (some code)), status⟩ .client
  | broken {failure : Failure} {status : Nat} (hfailure : ∀ fault, failure ≠ .connection fault)
    (h : leastServerStatus ≤ status) : Grounds ⟨some failure, some status⟩ .server

/-- The place of a kind in the order in which the policy asks for it. -/
def RetryKind.place : RetryKind → Nat
  | transient => 0
  | throttling => 1
  | client => 2
  | server => 3

theorem RetryKind.place_injective {k l : RetryKind} (h : k.place = l.place) : k = l := by
  cases k <;> cases l <;> first | rfl | cases h

/-- The first kind that there are grounds for. -/
structure FirstGrounds (a : Attempt) (kind : RetryKind) : Prop where
  given : Grounds a kind
  first : ∀ other, other.place < kind.place → ¬ Grounds a other

theorem FirstGrounds.unique {a : Attempt} {k l : RetryKind} (hk : FirstGrounds a k)
    (hl : FirstGrounds a l) : k = l := by
  rcases Nat.lt_trichotomy k.place l.place with h | h | h
  · exact absurd hk.given (hl.first k h)
  · exact RetryKind.place_injective h
  · exact absurd hl.given (hk.first l h)

theorem firstGrounds_transient {a : Attempt} (h : Grounds a .transient) :
    FirstGrounds a .transient := ⟨h, fun _ hlt => absurd hlt (Nat.not_lt_zero _)⟩

/-- What an action must be for a failed attempt: a retry on the first grounds, or none at all. -/
def Decides (action : RetryAction) (a : Attempt) : Prop :=
  (∃ kind, FirstGrounds a kind ∧ action = .retry kind) ∨
    (∀ kind, ¬ Grounds a kind) ∧ action = .forbidden

theorem decides_transient {a : Attempt} (h : Grounds a .transient) : Decides (.retry .transient) a :=
  .inl ⟨.transient, firstGrounds_transient h, rfl⟩

/-! ### Codes and statuses -/

section
variable {code : String}

theorem codeAction?_of_throttling (h : code ∈ throttlingCodes) :
    codeAction? code = some (.retry .throttling) := if_pos (List.contains_iff_mem.mpr h)

theorem codeAction?_of_clockSkew (hthrottling : code ∉ throttlingCodes) (h : code ∈ clockSkewCodes) :
    codeAction? code = some (.retry .client) := by simp [codeAction?, hthrottling, h]

theorem codeAction?_of_neither (hthrottling : code ∉ throttlingCodes) (hskew : code ∉ clockSkewCodes) :
    codeAction? code = Option.none := by simp [codeAction?, hthrottling, hskew]

end

/-- The status decides where it is all that could speak for another attempt. -/
theorem decides_statusAction {failure : Failure} {status : Option Nat}
    (hfailure : ∀ fault, failure ≠ .connection fault)
    (honly : ∀ kind, Grounds ⟨some failure, status⟩ kind → kind = .server) :
    Decides (statusAction status) ⟨some failure, status⟩ := by
  by_cases h : ∃ n, status = some n ∧ leastServerStatus ≤ n
  · obtain ⟨n, rfl, hn⟩ := h
    refine .inl ⟨.server, ⟨.broken hfailure hn, ?_⟩, if_pos hn⟩
    rintro other hlt hother
    rw [honly other hother] at hlt
    exact Nat.lt_irrefl _ hlt
  · refine .inr ⟨?_, ?_⟩
    · intro kind hkind
      obtain rfl := honly kind hkind
      cases hkind with
      | broken _ hn => exact h ⟨_, rfl, hn⟩
    · cases status with
      | none => rfl
      | some n => exact if_neg fun hn => h ⟨n, rfl, hn⟩

/-! ### Refusals -/

section
variable {fault : Fault} {code : Option String} {status : Option Nat}

theorem action_refused_of_passes (h : fault.Passes) :
    Attempt.action ⟨some (.refused fault code), status⟩ = .retry .transient := by
  rcases h with rfl | rfl <;> rfl

theorem action_refused (h : ¬ fault.Passes) :
    Attempt.action ⟨some (.refused fault code), status⟩ =
      (code.bind codeAction?).getD (statusAction status) := by
  cases fault with
  | idpCommunication => exact absurd (.inl rfl) h
  | invalidIdentityToken => exact absurd (.inr rfl) h
  | _ => rfl

theorem passes_of_grounds (h : Grounds ⟨some (.refused fault code), status⟩ .transient) :
    fault.Passes := by
  cases h with
  | refused h => exact h

theorem mem_of_grounds_throttling {code : String}
    (h : Grounds ⟨some (.refused fault (some code)), status⟩ .throttling) : code ∈ throttlingCodes := by
  cases h with
  | throttled h => exact h

theorem decides_refused :
    Decides (Attempt.action ⟨some (.refused fault code), status⟩)
      ⟨some (.refused fault code), status⟩ := by
  by_cases hfault : fault.Passes
  · rw [action_refused_of_passes hfault]
    exact decides_transient (.refused hfault)
  have htransient : ¬ Grounds ⟨some (.refused fault code), status⟩ .transient :=
    mt passes_of_grounds hfault
  rw [action_refused hfault]
  cases code with
  | none =>
    refine decides_statusAction (by simp) ?_
    intro kind hkind
    cases hkind with
    | refused h => exact absurd h hfault
    | broken => rfl
  | some code =>
    rw [Option.bind_some]
    by_cases hthrottling : code ∈ throttlingCodes
    · rw [codeAction?_of_throttling hthrottling]
      refine .inl ⟨.throttling, ⟨.throttled hthrottling, ?_⟩, rfl⟩
      intro other hlt
      cases other with
      | transient => exact htransient
      | _ => simp [RetryKind.place] at hlt
    by_cases hskew : code ∈ clockSkewCodes
    · rw [codeAction?_of_clockSkew hthrottling hskew]
      refine .inl ⟨.client, ⟨.skewed hskew, ?_⟩, rfl⟩
      intro other hlt
      cases other with
      | transient => exact htransient
      | throttling => exact mt mem_of_grounds_throttling hthrottling
      | _ => simp [RetryKind.place] at hlt
    · rw [codeAction?_of_neither hthrottling hskew]
      refine decides_statusAction (by simp) ?_
      intro kind hkind
      cases hkind with
      | refused h => exact absurd h hfault
      | throttled h => exact absurd h hthrottling
      | skewed h => exact absurd h hskew
      | broken => rfl

end

/-! ### The policy -/

theorem decides_action {a : Attempt} (h : a.failure ≠ none) : Decides a.action a := by
  obtain ⟨failure, status⟩ := a
  cases failure with
  | none => exact absurd rfl h
  | some failure =>
    cases failure with
    | timeout => exact decides_transient .timeout
    | refused fault code => exact decides_refused
    | foreign | unreadable | other =>
      refine decides_statusAction (by simp) ?_
      intro kind hkind
      cases hkind with
      | broken => rfl
    | connection fault =>
      cases fault with
      | io => exact decides_transient (.connection (.inl rfl))
      | timeout => exact decides_transient (.connection (.inr rfl))
      | user | other =>
        refine .inr ⟨?_, rfl⟩
        intro kind hkind
        cases hkind with
        | connection h => rcases h with h | h <;> cases h
        | broken hfailure => exact hfailure _ rfl

theorem action_eq_none_iff {a : Attempt} : a.action = .none ↔ a.failure = none := by
  constructor
  · intro hnone
    cases hfailure : a.failure with
    | none => rfl
    | some failure =>
      have hfailed : a.failure ≠ none := by simp [hfailure]
      obtain ⟨kind, -, hretry⟩ | ⟨-, hforbidden⟩ := decides_action hfailed
      · simp [hnone] at hretry
      · simp [hnone] at hforbidden
  · intro hnone
    simp [Attempt.action, hnone]

end CredentialResolution.Sts
