import CredentialResolution.Proofs.Resolution
import CredentialResolution.Proofs.Trimming
import CredentialResolution.Provider.Load
import Mathlib.Data.List.Forall2
import Mathlib.Data.Option.Basic

/-! What providers send when they are asked for credentials, in one round and over a run of rounds, with
any library. What is kept from one round to the next was made or loaded in worlds of the run, so what
holds of that after every round holds all along. -/

namespace CredentialResolution
set_option autoImplicit false

/-- The settings of the exchanges of a provider that is derived from another. -/
def Provider.settings? : Provider → Option ServiceSettings
  | source _ => none
  | assumedRole r => some r.settings
  | tokenExchange t => some t.settings

def Handle.settings? (h : Handle) : Option ServiceSettings := h.provider.bind Provider.settings?

namespace World
variable {w : World} {ws : List World} {memory : Option Memory}

@[simp] theorem making_none (w : World) : w.making none = w := rfl

@[simp] theorem making_some (w : World) (m : Memory) : w.making (some m) = m.madeIn := rfl

theorem making_mem (hw : w ∈ ws) (hmade : ∀ m, memory = some m → m.madeIn ∈ ws) :
    w.making memory ∈ ws := by
  cases memory with
  | none => exact hw
  | some m => exact hmade m rfl

/-- The file at the path can be read, and its bytes are those of the text. -/
def Holds (w : World) (path text : String) : Prop :=
  ∃ bytes, w.files.read path = .ok bytes ∧ String.fromUTF8? bytes = some text

end World

/-- What the library finds for a client that is made in a world: the endpoint in the region of the
settings, or in the region of that world where the settings have none. -/
structure ServiceSettings.Finds (s : ServiceSettings) (lib : Library) (made : World)
    (endpoint : Option Sts.Endpoint) : Prop where
  given : ∀ region, s.region = some region → lib.endpoint? made (some region) = endpoint
  found : s.region = none → lib.endpoint? made (lib.region? made) = endpoint

theorem ServiceSettings.finds_iff {s : ServiceSettings} {lib : Library} {made : World}
    {endpoint : Option Sts.Endpoint} :
    s.Finds lib made endpoint ↔ s.endpoint? lib made = endpoint := by
  unfold ServiceSettings.endpoint?
  cases hregion : s.region with
  | some region =>
    constructor
    · intro h
      exact h.given region hregion
    · intro h
      refine ⟨fun other hother => ?_, fun hnone => by simp [hregion] at hnone⟩
      obtain rfl := Option.some.inj (hregion.symm.trans hother)
      exact h
  | none =>
    constructor
    · intro h
      exact h.found hregion
    · intro h
      exact ⟨fun region hsome => by simp [hregion] at hsome, fun _ => h⟩

namespace Sts.Policy
variable {p : Policy} {provider : String} {request : Request} {answers : List Answer}

theorem exchange_pos (p : Policy) (answers : List Answer) : 0 < (p.exchange answers).1 := by
  unfold exchange
  fun_cases exchangeWith p (p.mostAttempts - 1) answers <;> simp

theorem requests_send : (p.send provider request answers).requests =
    List.replicate (p.exchange answers).1 request := rfl

theorem eq_of_mem_requests_send {other : Request}
    (h : other ∈ (p.send provider request answers).requests) : other = request :=
  List.eq_of_mem_replicate h

theorem requests_send_ne_nil : (p.send provider request answers).requests ≠ [] := by
  have hpos := p.exchange_pos answers
  rw [requests_send, Ne, List.replicate_eq_nil_iff]
  omega

end Sts.Policy

namespace Handle
variable {h : Handle} {lib : Library} {ws : List World} {memory : Option Memory}

theorem load_of_provider {p : Provider} (hp : h.provider = some p) (memory : Option Memory)
    (w : World) : h.load lib memory w = p.load lib memory w := by
  rw [load, hp]

/-- Where every round comes to `R` and leaves `I` behind, a run comes to `R` in each of its rounds. -/
theorem forall₂_loadAll {I : Option Memory → Prop} {R : World → Loaded → Prop}
    (hstep : ∀ w ∈ ws, ∀ memory, I memory →
      R w (h.load lib memory w).1 ∧ I (h.load lib memory w).2)
    (hstart : I memory) : List.Forall₂ R ws (h.loadAll lib memory ws) := by
  induction ws generalizing memory with
  | nil => exact .nil
  | cons w ws ih =>
    obtain ⟨hround, hleft⟩ := hstep w List.mem_cons_self memory hstart
    exact .cons hround (ih (fun v hv => hstep v (List.mem_cons_of_mem w hv)) hleft)

theorem exists_load_of_mem_loadAll {loaded : Loaded} (hmem : loaded ∈ h.loadAll lib memory ws) :
    ∃ w memory, loaded = (h.load lib memory w).1 := by
  induction ws generalizing memory with
  | nil => simp [loadAll] at hmem
  | cons w ws ih =>
    rcases List.mem_cons.mp hmem with rfl | hlater
    · exact ⟨w, memory, rfl⟩
    · exact ih hlater

end Handle

namespace AssumedRole
variable {r : AssumedRole} {lib : Library} {w : World} {ws : List World} {memory : Option Memory}
  {signer : Credentials} {endpoint : Sts.Endpoint} {source : Source}

/-! ### One round -/

theorem given_of_signer? (h : r.signer? lib memory w = some signer) :
    (∃ m, memory = some m ∧ m.signer = some signer) ∨
      ∃ source, r.source = some source ∧ source.load lib (w.making memory) w = .ok signer := by
  rcases (Option.orElse_eq_some _ _ _).mp h with hold | ⟨-, hnew⟩
  · left
    exact Option.bind_eq_some_iff.mp (Option.filter_eq_some_iff.mp hold).1
  · right
    obtain ⟨source, hsource, hload⟩ := Option.bind_eq_some_iff.mp hnew
    refine ⟨source, hsource, ?_⟩
    cases hgiven : source.load lib (w.making memory) w with
    | error e => simp [hgiven, Except.toOption] at hload
    | ok c => simpa [hgiven, Except.toOption] using hload

theorem exists_signer (hsource : r.source = some source)
    (hload : source.load lib (w.making memory) w = .ok signer) :
    ∃ c, r.signer? lib memory w = some c := by
  unfold signer?
  cases (memory.bind Memory.signer).filter (lib.isFresh w) with
  | some c => exact ⟨c, rfl⟩
  | none => exact ⟨signer, by simp [hsource, hload, Except.toOption]⟩

theorem load_of_unsigned (h : r.signer? lib memory w = none) :
    (r.load lib memory w).1 = ⟨.error .unsigned, []⟩ := by simp [load, h]

theorem load_of_signed (hsigner : r.signer? lib memory w = some signer)
    (hendpoint : r.settings.endpoint? lib (w.making memory) = some endpoint) :
    (r.load lib memory w).1 = (lib.policy (w.making memory)).send providerName
      (r.request endpoint signer) w.answers := by simp [load, hsigner, hendpoint]

theorem exists_of_mem_requests {request : Sts.Request}
    (h : request ∈ (r.load lib memory w).1.requests) :
    ∃ endpoint signer, r.settings.endpoint? lib (w.making memory) = some endpoint ∧
      r.signer? lib memory w = some signer ∧ request = r.request endpoint signer := by
  cases hsigner : r.signer? lib memory w with
  | none => simp [load_of_unsigned hsigner] at h
  | some signer =>
    cases hendpoint : r.settings.endpoint? lib (w.making memory) with
    | none => simp [load, hsigner, hendpoint] at h
    | some endpoint =>
      rw [load_of_signed hsigner hendpoint] at h
      exact ⟨endpoint, signer, rfl, rfl, Sts.Policy.eq_of_mem_requests_send h⟩

/-! ### Rounds among others -/

/-- The source of the role, made in one of the worlds, gives these credentials in one of them. -/
def GivenIn (r : AssumedRole) (lib : Library) (ws : List World) (signer : Credentials) : Prop :=
  ∃ source v w, r.source = some source ∧ v ∈ ws ∧ w ∈ ws ∧ source.load lib v w = .ok signer

/-- What a role sends in one of several worlds, where it may remember the others. It sends nothing that is
not signed, and sends it as often as the policy asks for that was in force when its client was made. -/
structure Round (r : AssumedRole) (lib : Library) (ws : List World) (w : World) (loaded : Loaded) :
    Prop where
  signed : ∀ request ∈ loaded.requests, ∃ endpoint signer,
    (∃ v ∈ ws, r.settings.Finds lib v (some endpoint)) ∧ r.GivenIn lib ws signer ∧
      request = ⟨.assumeRole r.roleArn r.sessionName r.externalId r.duration,
        some ⟨signer.accessKeyId, signer.sessionToken, endpoint.signingRegion⟩,
        r.settings.proxy.isSome⟩
  sent : ∀ source, r.source = some source →
    (∀ v ∈ ws, (∃ endpoint, r.settings.Finds lib v (some endpoint)) ∧
      ∃ signer, source.load lib v w = .ok signer) →
    loaded.requests ≠ [] ∧ ∃ v ∈ ws, ∃ request,
      loaded.requests = List.replicate ((lib.policy v).exchange w.answers).1 request ∧
        loaded.outcome = outcomeOf providerName ((lib.policy v).exchange w.answers).2
  unsigned : r.source = none → loaded.outcome = .error .unsigned ∧ loaded.requests = []

/-- What is remembered was made and loaded in these worlds. -/
structure Remembers (r : AssumedRole) (lib : Library) (ws : List World) (memory : Option Memory) :
    Prop where
  made : ∀ m, memory = some m → m.madeIn ∈ ws
  given : ∀ m c, memory = some m → m.signer = some c → r.GivenIn lib ws c

theorem remembers_none : r.Remembers lib ws none := ⟨nofun, nofun⟩

section
variable (hw : w ∈ ws) (hmemory : r.Remembers lib ws memory)
include hw hmemory

theorem givenIn_of_signer? (h : r.signer? lib memory w = some signer) : r.GivenIn lib ws signer := by
  rcases given_of_signer? h with ⟨m, hm, hold⟩ | ⟨source, hsource, hload⟩
  · exact hmemory.given m signer hm hold
  · exact ⟨source, w.making memory, w, hsource, World.making_mem hw hmemory.made, hw, hload⟩

theorem remembers_load : r.Remembers lib ws (r.load lib memory w).2 := by
  constructor
  · rintro m ⟨⟩
    exact World.making_mem hw hmemory.made
  · rintro m c ⟨⟩ hsigner
    exact givenIn_of_signer? hw hmemory hsigner

theorem round_load : r.Round lib ws w (r.load lib memory w).1 := by
  have hmade := World.making_mem hw hmemory.made
  constructor
  · intro request hrequest
    obtain ⟨endpoint, signer, hendpoint, hsigner, rfl⟩ := exists_of_mem_requests hrequest
    exact ⟨endpoint, signer, ⟨_, hmade, ServiceSettings.finds_iff.mpr hendpoint⟩,
      givenIn_of_signer? hw hmemory hsigner, rfl⟩
  · intro source hsource hfound
    obtain ⟨⟨endpoint, hendpoint⟩, c, hload⟩ := hfound _ hmade
    obtain ⟨signer, hsigner⟩ := exists_signer hsource hload
    rw [load_of_signed hsigner (ServiceSettings.finds_iff.mp hendpoint)]
    exact ⟨Sts.Policy.requests_send_ne_nil, _, hmade, _, rfl, rfl⟩
  · intro hnone
    have hsigner : r.signer? lib memory w = none := by
      rw [Option.eq_none_iff_forall_ne_some]
      intro signer hsigner
      obtain ⟨source, _, _, hsource, -⟩ := givenIn_of_signer? hw hmemory hsigner
      simp [hnone] at hsource
    rw [load_of_unsigned hsigner]
    exact ⟨rfl, rfl⟩

end

theorem rounds_loadAll {h : Handle} (hp : h.provider = some (.assumedRole r)) (lib : Library)
    (ws : List World) : List.Forall₂ (r.Round lib ws) ws (h.loadAll lib none ws) := by
  apply Handle.forall₂_loadAll (I := r.Remembers lib ws)
  · intro w hw memory hmemory
    rw [Handle.load_of_provider hp]
    exact ⟨round_load hw hmemory, remembers_load hw hmemory⟩
  · exact remembers_none

end AssumedRole

namespace TokenExchange
variable {t : TokenExchange} {lib : Library} {w made : World} {ws : List World}
  {memory : Option Memory} {token : String}

/-! ### One round -/

theorem token_eq_ok_iff :
    t.token w = .ok token ↔
      ∃ text, w.Holds t.tokenFile text ∧ Text.IsTrim text.toList token.toList := by
  simp only [Text.isTrim_toList_iff]
  unfold TokenExchange.token World.Holds
  cases w.files.read t.tokenFile with
  | error e => simp
  | ok bytes => cases htext : String.fromUTF8? bytes <;> simp [htext]

theorem exists_token_iff :
    (∃ token, t.token w = .ok token) ↔ ∃ text, w.Holds t.tokenFile text := by
  constructor
  · rintro ⟨token, htoken⟩
    obtain ⟨text, htext, -⟩ := token_eq_ok_iff.mp htoken
    exact ⟨text, htext⟩
  · rintro ⟨text, htext⟩
    exact ⟨_, token_eq_ok_iff.mpr ⟨text, htext, Text.isTrim_toList_iff.mpr rfl⟩⟩

theorem load_of_token_error {e : LoadError} (h : t.token w = .error e) :
    t.load lib memory w = (⟨.error e, []⟩, memory) := by
  simp [load, h]

theorem load_of_token_ok (h : t.token w = .ok token) :
    t.load lib memory w =
      (t.send lib (w.making memory) token w.answers, some ⟨w.making memory, none⟩) := by
  simp [load, h]

theorem send_of_no_endpoint {answers : List Sts.Answer}
    (h : t.settings.endpoint? lib made = none) :
    t.send lib made token answers = ⟨.error .noEndpoint, []⟩ := by
  simp [send, h]

theorem send_of_endpoint {answers : List Sts.Answer} {endpoint : Sts.Endpoint}
    (h : t.settings.endpoint? lib made = some endpoint) :
    t.send lib made token answers =
      Sts.Policy.ofTokens.send providerName (t.request token) answers := by
  simp [send, h]

theorem eq_of_mem_requests_send {answers : List Sts.Answer} {request : Sts.Request}
    (h : request ∈ (t.send lib made token answers).requests) : request = t.request token := by
  cases hendpoint : t.settings.endpoint? lib made with
  | none => simp [send_of_no_endpoint hendpoint] at h
  | some endpoint =>
    rw [send_of_endpoint hendpoint] at h
    exact Sts.Policy.eq_of_mem_requests_send h

theorem exists_token_of_mem_requests {request : Sts.Request}
    (h : request ∈ (t.load lib memory w).1.requests) :
    ∃ token, t.token w = .ok token ∧ request = t.request token := by
  cases htoken : t.token w with
  | error e => simp [load_of_token_error htoken] at h
  | ok token =>
    rw [load_of_token_ok htoken] at h
    exact ⟨token, rfl, eq_of_mem_requests_send h⟩

/-! ### Rounds among others -/

/-- What is sent in one of several worlds for the token that the file holds there. -/
structure Round (t : TokenExchange) (lib : Library) (ws : List World) (w : World) (loaded : Loaded) :
    Prop where
  unread : (¬ ∃ text, w.Holds t.tokenFile text) →
    loaded.requests = [] ∧ ∃ e, loaded.outcome = .error e
  read : ∀ text, w.Holds t.tokenFile text → ∃ token, Text.IsTrim text.toList token.toList ∧
    ∀ request ∈ loaded.requests, request = t.request token
  sent : ∀ text, w.Holds t.tokenFile text →
    (∀ v ∈ ws, ∃ endpoint, t.settings.Finds lib v (some endpoint)) → loaded.requests ≠ []

section
variable (hw : w ∈ ws) (hmade : ∀ m, memory = some m → m.madeIn ∈ ws)
include hw hmade

theorem made_load : ∀ m, (t.load lib memory w).2 = some m → m.madeIn ∈ ws := by
  cases htoken : t.token w with
  | error e =>
    rw [load_of_token_error htoken]
    exact hmade
  | ok token =>
    rw [load_of_token_ok htoken]
    rintro m ⟨⟩
    exact World.making_mem hw hmade

theorem round_load : t.Round lib ws w (t.load lib memory w).1 := by
  constructor
  · intro hunread
    cases htoken : t.token w with
    | error e =>
      rw [load_of_token_error htoken]
      exact ⟨rfl, e, rfl⟩
    | ok token => exact absurd (exists_token_iff.mp ⟨token, htoken⟩) hunread
  · intro text htext
    have htrim := Text.isTrim_toList_iff.mpr (rfl : Text.trim text = _)
    have htoken := token_eq_ok_iff.mpr ⟨text, htext, htrim⟩
    refine ⟨_, htrim, fun request hrequest => ?_⟩
    obtain ⟨token', htoken', rfl⟩ := exists_token_of_mem_requests hrequest
    rw [Except.ok.inj (htoken'.symm.trans htoken)]
  · intro text htext hfound
    obtain ⟨token, htoken⟩ := exists_token_iff.mpr ⟨text, htext⟩
    obtain ⟨endpoint, hendpoint⟩ := hfound _ (World.making_mem hw hmade)
    rw [load_of_token_ok htoken, send_of_endpoint (ServiceSettings.finds_iff.mp hendpoint)]
    exact Sts.Policy.requests_send_ne_nil

end

theorem rounds_loadAll {h : Handle} (hp : h.provider = some (.tokenExchange t)) (lib : Library)
    (ws : List World) : List.Forall₂ (t.Round lib ws) ws (h.loadAll lib none ws) := by
  apply Handle.forall₂_loadAll (I := fun memory => ∀ m, memory = some m → m.madeIn ∈ ws)
  · intro w hw memory hmade
    rw [Handle.load_of_provider hp]
    exact ⟨round_load hw hmade, made_load hw hmade⟩
  · nofun

end TokenExchange

/-- Requests go through the proxy of the settings if there is one, and past it if there is none. -/
theorem Handle.proxied_of_mem_requests {h : Handle} {settings : ServiceSettings}
    (hs : h.settings? = some settings) {lib : Library} {w : World} {memory : Option Memory}
    {request : Sts.Request} (hmem : request ∈ (h.load lib memory w).1.requests) :
    request.proxied = settings.proxy.isSome := by
  obtain ⟨p, hp, hsettings⟩ := Option.bind_eq_some_iff.mp hs
  rw [load_of_provider hp] at hmem
  cases p with
  | source s => simp [Provider.settings?] at hsettings
  | assumedRole r =>
    obtain rfl := Option.some.inj hsettings
    obtain ⟨_, _, -, -, rfl⟩ := AssumedRole.exists_of_mem_requests hmem
    rfl
  | tokenExchange t =>
    obtain rfl := Option.some.inj hsettings
    obtain ⟨_, -, rfl⟩ := TokenExchange.exists_token_of_mem_requests hmem
    rfl

end CredentialResolution
