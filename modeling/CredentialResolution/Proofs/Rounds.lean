import CredentialResolution.Proofs.Loading
import CredentialResolution.Proofs.Retrying

/-! Rounds of requests to one provider that reads a file. The file is read anew in each of them. The
client of an exchange is made in the first that has a token, and goes by the endpoint that the library
found then; as long as it would find no other, every round goes as if it were the first. -/

namespace CredentialResolution
set_option autoImplicit false

namespace TokenExchange
variable {t : TokenExchange} {lib : Library} {h : Handle} {u v w : World} {ws : List World}

section
variable (hp : h.provider = some (.tokenExchange t))
include hp

theorem load_handle (memory : Option Memory) (w : World) :
    h.load lib memory w = t.load lib memory w := Handle.load_of_provider hp memory w

end
end TokenExchange

/-! ### Rounds without memory -/

inductive FileBacked
  | keys (path : String)
  | exchange (t : TokenExchange)
  deriving DecidableEq, Repr

namespace FileBacked
variable {b : FileBacked} {lib : Library} {w : World} {ws : List World} {memory : Option Memory}

def provider : FileBacked → Provider
  | keys path => .source (.file path)
  | exchange t => .tokenExchange t

section
variable (hw : w ∈ ws) (hmade : ∀ m, memory = some m → m.madeIn ∈ ws)
include hw hmade

theorem made_load : ∀ m, (b.provider.load lib memory w).2 = some m → m.madeIn ∈ ws := by
  cases b with
  | keys path =>
    rintro m ⟨⟩
    exact World.making_mem hw hmade
  | exchange t => exact TokenExchange.made_load hw hmade

end

end FileBacked

namespace World

/-- Another token, in a process that names a region by now. -/
def rotated : World :=
  withToken "next".toUTF8 [("AWS_REGION", "us-east-1")] [.issued ⟨"K", "S", "T", ⟨0, 0⟩⟩]

theorem holds_rotated : rotated.Holds "/t" "next" := ⟨_, read_withToken _ _ _, by decide +kernel⟩

end World

namespace TokenExchange
variable {region : Option String} {memory : Option Memory}

theorem load_throttled : (inRegion region).load .ofVariables memory .throttled =
    ((inRegion region).send .ofVariables (World.throttled.making memory) "token"
      World.throttled.answers, some ⟨World.throttled.making memory, none⟩) :=
  load_of_token_ok (token_eq_ok_iff.mpr ⟨_, World.holds_throttled, Text.isTrim_token⟩)

theorem load_rotated : (inRegion region).load .ofVariables memory .rotated =
    ((inRegion region).send .ofVariables (World.rotated.making memory) "next"
      World.rotated.answers, some ⟨World.rotated.making memory, none⟩) :=
  load_of_token_ok (token_eq_ok_iff.mpr ⟨_, World.holds_rotated,
    Text.isTrim_toList_iff.mpr (by decide +kernel)⟩)

end TokenExchange

namespace FileBacked

/-- The client of the first round was made without a region, and the second round names one too late. -/
theorem not_forall_alone :
    ¬ ∀ (b : FileBacked) (h : Handle) (ws : List World), h.provider = some b.provider →
      h.loadAll .ofVariables none ws = ws.map fun w => (h.load .ofVariables none w).1 := by
  intro hall
  generalize hh : Handle.mk .webIdentity (some (.tokenExchange (.inRegion none))) = h
  have hp : h.provider = some (.tokenExchange (.inRegion none)) := hh ▸ rfl
  have halone := hall (.exchange (.inRegion none)) h [.throttled, .rotated] hp
  have hnone : (TokenExchange.inRegion none).settings.endpoint? .ofVariables .throttled = none := rfl
  have hsome : (TokenExchange.inRegion none).settings.endpoint? .ofVariables .rotated =
      some ⟨"us-east-1"⟩ := by decide +kernel
  simp only [Handle.loadAll, List.map_cons, TokenExchange.load_handle hp,
    TokenExchange.load_throttled, TokenExchange.load_rotated, World.making_none, World.making_some,
    List.cons.injEq, true_and, List.map_nil, and_true, TokenExchange.send_of_no_endpoint hnone,
    TokenExchange.send_of_endpoint hsome] at halone
  have hrequests := congrArg Loaded.requests halone
  exact Sts.Policy.requests_send_ne_nil hrequests.symm

end FileBacked
end CredentialResolution
