import CredentialResolution.Proofs.Loading
import CredentialResolution.Proofs.RetryPolicy
import CredentialResolution.Provider.Variables

/-! Repeated requests. The first answer after which a policy asks for no other ends an exchange, or else
the last one that may be asked for, and only the answer that ends it counts. What is sent for a token
follows a policy of its own, and depends on the library only in whether there is an endpoint. -/

namespace CredentialResolution
set_option autoImplicit false

namespace Sts

theorem Policy.exchangeWith_eq (p : Policy) {left : Nat} {answers : List Answer}
    (h : left < answers.length) :
    p.exchangeWith left answers =
      (min (left + 1) (answers.findIdx (fun a => !p.asksRetry a) + 1),
        answers[min left (answers.findIdx fun a => !p.asksRetry a)]?) := by
  induction left generalizing answers with
  | zero =>
    cases answers with
    | nil => simp at h
    | cons a as => simp [exchangeWith]
  | succ left ih =>
    cases answers with
    | nil => simp at h
    | cons a as =>
      rw [List.findIdx_cons, exchangeWith]
      cases p.asksRetry a with
      | false => simp
      | true =>
        -- An answer that is not final takes one attempt, and the final one moves up by one place.
        simp only [if_true, ih (Nat.lt_of_succ_lt_succ h), Bool.not_true, cond_false,
          Nat.add_min_add_right, List.getElem?_cons_succ]

/-- Nothing is sent again after the answer: it is none of failure, or a failure that forbids it. -/
def Answer.isFinal : Answer → Bool
  | issued _ | empty => true
  | refused r => (refused r).attempt.action == .forbidden

theorem Answer.not_asksRetry (a : Answer) : (!a.asksRetry) = a.isFinal := by
  cases a with
  | issued | empty => rfl
  | refused r =>
    have haction : (refused r).attempt.action ≠ .none :=
      mt action_eq_none_iff.mp (by simp [attempt])
    simp only [asksRetry, isFinal]
    cases h : (refused r).attempt.action with
    | none => exact absurd h haction
    | forbidden | retry => rfl

/-- How many answers the exchange of a token takes: up to the first final one, and three at most. -/
def attempts (answers : List Answer) : Nat := min 3 (answers.findIdx Answer.isFinal + 1)

theorem attempts_pos (answers : List Answer) : 0 < attempts answers :=
  Nat.lt_min.mpr ⟨by decide, Nat.succ_pos _⟩

theorem attempts_le (answers : List Answer) : attempts answers ≤ 3 := Nat.min_le_left _ _

theorem exchange_ofTokens {answers : List Answer} (h : 3 ≤ answers.length) :
    Policy.ofTokens.exchange answers = (attempts answers, answers[attempts answers - 1]?) := by
  have hfinal : (fun a => !Policy.ofTokens.asksRetry a) = Answer.isFinal :=
    funext Answer.not_asksRetry
  have hlast : min 2 (answers.findIdx Answer.isFinal) = attempts answers - 1 := by
    simp only [attempts]
    omega
  have hexchange := Policy.ofTokens.exchangeWith_eq h
  rw [hfinal, hlast] at hexchange
  exact hexchange

end Sts

namespace TokenExchange
variable {t : TokenExchange} {lib : Library} {w made : World} {answers : List Sts.Answer}
  {token : String}

/-- What an exchange of the token comes to: as many equal requests as there are answers up to the one
that ends it, and an outcome that this answer decides. -/
structure Exchanged (t : TokenExchange) (token : String) (answers : List Sts.Answer)
    (last : Sts.Answer) (loaded : Loaded) : Prop where
  ended : answers[Sts.attempts answers - 1]? = some last
  requests : loaded.requests = List.replicate (Sts.attempts answers) (t.request token)
  issued : ∀ c, last = .issued c → loaded.outcome =
    .ok ⟨c.accessKeyId, c.secretAccessKey, some c.sessionToken, some c.expiry, "WebIdentityToken"⟩
  empty : last = .empty → loaded.outcome = .error .nothingIssued
  refused : ∀ r, last = .refused r → loaded.outcome = .error (.refused r)

theorem exists_exchanged_send {endpoint : Sts.Endpoint} (hanswers : 3 ≤ answers.length)
    (hendpoint : t.settings.endpoint? lib made = some endpoint) :
    ∃ last, t.Exchanged token answers last (t.send lib made token answers) := by
  have hbound : Sts.attempts answers - 1 < answers.length := by
    have := Sts.attempts_pos answers
    have := Sts.attempts_le answers
    omega
  obtain ⟨last, hlast⟩ : ∃ last, answers[Sts.attempts answers - 1]? = some last :=
    ⟨_, List.getElem?_eq_getElem hbound⟩
  have hsend : t.send lib made token answers = ⟨outcomeOf providerName (some last),
      List.replicate (Sts.attempts answers) (t.request token)⟩ := by
    rw [send_of_endpoint hendpoint, Sts.Policy.send, Sts.exchange_ofTokens hanswers, hlast]
  rw [hsend]
  refine ⟨last, hlast, rfl, ?_, ?_, ?_⟩
  · rintro c rfl
    rfl
  · rintro rfl
    rfl
  · rintro r rfl
    rfl

/-- One request for credentials sends a readable token until an answer is final or three were given, if
an endpoint was found when the client was made. It sends nothing if there is none. -/
theorem exchanged_load (lib : Library) (t : TokenExchange) (memory : Option Memory) (w : World)
    (text token : String) (htext : w.Holds t.tokenFile text)
    (htrim : Text.IsTrim text.toList token.toList) (hanswers : 3 ≤ w.answers.length) :
    (∀ endpoint, t.settings.Finds lib (w.making memory) (some endpoint) → ∃ last,
      t.Exchanged token w.answers last ((Provider.tokenExchange t).load lib memory w).1) ∧
    (t.settings.Finds lib (w.making memory) none →
      ((Provider.tokenExchange t).load lib memory w).1.requests = [] ∧
        ((Provider.tokenExchange t).load lib memory w).1.outcome = .error .noEndpoint) := by
  have htoken := token_eq_ok_iff.mpr ⟨text, htext, htrim⟩
  have hload : (Provider.tokenExchange t).load lib memory w = _ := load_of_token_ok htoken
  rw [hload]
  constructor
  · intro endpoint hendpoint
    exact exists_exchanged_send hanswers (ServiceSettings.finds_iff.mp hendpoint)
  · intro hnone
    rw [send_of_no_endpoint (ServiceSettings.finds_iff.mp hnone)]
    exact ⟨rfl, rfl⟩

def inRegion (region : Option String) : TokenExchange := ⟨"A", "N", "/t", ⟨region, none⟩⟩

end TokenExchange

namespace World

/-- A world whose only file is `/t`. -/
def withToken (bytes : ByteArray) (environment : List (String × String))
    (answers : List Sts.Answer) : World :=
  ⟨⟨[("t", .file bytes)], []⟩, environment, [], answers⟩

theorem read_withToken (bytes : ByteArray) (environment : List (String × String))
    (answers : List Sts.Answer) : (withToken bytes environment answers).files.read "/t" = .ok bytes := by
  generalize hw : withToken bytes environment answers = w
  have hpath : Files.Path.ofString "/t" = .ok ⟨true, ["", "t"]⟩ := by decide +kernel
  have hshort : ¬ Files.FileSystem.mostPathBytes < "/t".utf8ByteSize := by decide +kernel
  have hnames : w.files.namesToOpen "/t" = .ok ["", "t"] := by
    simp [Files.FileSystem.namesToOpen, hpath, hshort, Files.FileSystem.namesOf]
  have hnode : w.files.node? ["t"] = some (.file bytes) := hw ▸ rfl
  have hwalk : w.files.walk none Files.FileSystem.mostLinks [] ["", "t"] = .ok ["t"] :=
    Files.FileSystem.walk_rootFile hnode (by decide) (by decide) (by decide) rfl
  simp only [Files.FileSystem.read, Files.FileSystem.locateToOpen, hnames, hwalk, hnode]

/-- The service gives credentials once it was asked twice. There is no variable that names a region. -/
def throttled : World :=
  withToken "token\n".toUTF8 []
    [.refused ⟨400, some "Throttling", none⟩, .issued ⟨"K", "S", "T", ⟨0, 0⟩⟩, .empty]

theorem holds_throttled : throttled.Holds "/t" "token\n" :=
  ⟨_, read_withToken _ _ _, by decide +kernel⟩

end World

theorem Text.isTrim_token : IsTrim "token\n".toList "token".toList :=
  isTrim_toList_iff.mpr (by decide +kernel)

namespace TokenExchange

theorem exchanged_load_throttled :
    World.throttled.Holds "/t" "token\n" ∧ Text.IsTrim "token\n".toList "token".toList ∧
      3 ≤ World.throttled.answers.length ∧
      (inRegion (some "eu-west-1")).settings.Finds .ofVariables .throttled
        (some ⟨"eu-west-1"⟩) ∧
      ((Provider.tokenExchange (inRegion (some "eu-west-1"))).load .ofVariables none
        .throttled).1.requests =
          List.replicate 2 ((inRegion (some "eu-west-1")).request "token") ∧
      ((Provider.tokenExchange (inRegion (some "eu-west-1"))).load .ofVariables none
        .throttled).1.outcome = .ok ⟨"K", "S", some "T", some ⟨0, 0⟩, "WebIdentityToken"⟩ ∧
      (inRegion none).settings.Finds .ofVariables .throttled none ∧
      ((Provider.tokenExchange (inRegion none)).load .ofVariables none .throttled).1.requests =
        [] := by
  have hfound : (inRegion (some "eu-west-1")).settings.Finds .ofVariables .throttled
      (some ⟨"eu-west-1"⟩) := ServiceSettings.finds_iff.mpr (by decide +kernel)
  have hnone : (inRegion none).settings.Finds .ofVariables .throttled none :=
    ServiceSettings.finds_iff.mpr rfl
  have hattempts : Sts.attempts World.throttled.answers = 2 := by decide +kernel
  obtain ⟨last, hexchanged⟩ := (exchanged_load .ofVariables (inRegion (some "eu-west-1")) none
    .throttled "token\n" "token" World.holds_throttled Text.isTrim_token (by decide)).1 _ hfound
  have hended := hexchanged.ended
  have hrequests := hexchanged.requests
  rw [hattempts] at hended hrequests
  obtain rfl : _ = last := Option.some.inj hended
  have hnowhere := (exchanged_load .ofVariables (inRegion none) none .throttled "token\n" "token"
    World.holds_throttled Text.isTrim_token (by decide)).2 hnone
  exact ⟨World.holds_throttled, Text.isTrim_token, by decide, hfound, hrequests,
    hexchanged.issued _ rfl, hnone, hnowhere.1⟩

/-- There is no endpoint in a region whose name has an empty part. -/
theorem not_forall_exchanged_load :
    ¬ ∀ (t : TokenExchange) (memory : Option Memory) (w : World) (text token : String),
      w.Holds t.tokenFile text → Text.IsTrim text.toList token.toList → 3 ≤ w.answers.length →
        ∃ last, t.Exchanged token w.answers last
          ((Provider.tokenExchange t).load .ofVariables memory w).1 := by
  intro h
  obtain ⟨last, hexchanged⟩ := h (inRegion (some "a..b")) none .throttled "token\n" "token"
    World.holds_throttled Text.isTrim_token (by decide)
  have hnone : (inRegion (some "a..b")).settings.endpoint? .ofVariables .throttled = none := by
    decide +kernel
  have hload : (Provider.tokenExchange (inRegion (some "a..b"))).load .ofVariables none
      .throttled = _ := load_of_token_ok
    (token_eq_ok_iff.mpr ⟨"token\n", World.holds_throttled, Text.isTrim_token⟩)
  have hrequests := hexchanged.requests
  rw [hload, World.making_none, send_of_no_endpoint hnone] at hrequests
  have hpos := Sts.attempts_pos World.throttled.answers
  have hnil := (List.replicate_eq_nil_iff _).mp hrequests.symm
  omega

end TokenExchange
end CredentialResolution
