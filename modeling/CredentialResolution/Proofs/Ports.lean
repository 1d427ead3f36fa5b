import CredentialResolution.Proofs.Building
import CredentialResolution.Proofs.Judgement

/-! Ports of proxies, as they are checked and as they are used. Both readings agree on every text but
one: a zero with a minus sign passes the check, and no proxy can be made of it. -/

namespace CredentialResolution
set_option autoImplicit false

namespace Text

/-- A minus sign and then nothing but zeros, one at least. -/
def IsMinusZero (s : String) : Prop :=
  ∃ zeros, zeros ≠ [] ∧ (∀ c ∈ zeros, c = '0') ∧ s.toList = '-' :: zeros

theorem digitValue_eq_zero_iff {c : Char} (h : IsDigit c) : digitValue c = 0 ↔ c = '0' := by
  have hvalue : digitValue c = c.toNat - 48 := by
    rw [digitValue, show digit? c = some (c.toNat - 48) from if_pos h, Option.getD_some]
  constructor
  · intro hzero
    have hcode : c.toNat = '0'.toNat := by
      have := h.1
      change c.toNat = 48
      omega
    exact Char.toNat_inj.mp hcode
  · rintro rfl
    rfl

theorem decimal_eq_zero_iff {cs : List Char} (h : ∀ c ∈ cs, IsDigit c) :
    decimal 0 cs = 0 ↔ ∀ c ∈ cs, c = '0' := by
  induction cs with
  | nil => simp [decimal]
  | cons c cs ih =>
    obtain ⟨hc, hcs⟩ := List.forall_mem_cons.mp h
    rw [List.forall_mem_cons, ← digitValue_eq_zero_iff hc, ← ih hcs]
    simp only [decimal, Nat.mul_zero, Nat.zero_add]
    constructor
    · intro hzero
      have hfirst : digitValue c = 0 := by
        have := le_decimal (digitValue c) cs
        omega
      rw [hfirst] at hzero
      exact ⟨hfirst, hzero⟩
    · rintro ⟨hfirst, hzero⟩
      rw [hfirst, hzero]

theorem isMinusZero_iff {s : String} :
    IsMinusZero s ↔ Numeral s.toList 0 ∧ s.toList.head? = some '-' := by
  constructor
  · rintro ⟨zeros, hne, hzeros, hs⟩
    have hdigits : AreDigits zeros := ⟨hne, fun c hc => hzeros c hc ▸ by decide⟩
    have hnumeral := Numeral.minus hs hdigits
    rw [(decimal_eq_zero_iff hdigits.2).mpr hzeros] at hnumeral
    exact ⟨hnumeral, by rw [hs, List.head?_cons]⟩
  · rintro ⟨hnumeral, hminus⟩
    generalize hn : (0 : Int) = n at hnumeral
    cases hnumeral with
    | @minus zeros hs hdigits =>
      exact ⟨zeros, hdigits.1, (decimal_eq_zero_iff hdigits.2).mp (by omega), hs⟩
    | plus hs _ =>
      rw [hs] at hminus
      simp at hminus
    | unsigned hdigits =>
      obtain ⟨c, cs, hcs⟩ := List.exists_cons_of_ne_nil hdigits.1
      rw [hcs] at hdigits hminus
      exact absurd (Option.some.inj hminus) (hdigits.head_ne not_isDigit_minus)

end Text

namespace Context
variable {ctx : Context} {host v : String}

/-- How a port is read by its check and by the proxy that is made of it. -/
structure PortReadings (ctx : Context) (host v : String) : Prop where
  accepted : (Validator.port.judgeProperty ctx .proxyPort).isValid = true ↔
    (∃ proxy, Proxy.ofConfiguration ctx.configuration = .ok (some proxy)) ∨
      Text.IsMinusZero (Text.trim v)
  same : ∀ proxy, Proxy.ofConfiguration ctx.configuration = .ok (some proxy) →
    Validator.readInteger v = .ok (proxy.port : Int) ∧ proxy.port ≤ 65535 ∧
      proxy.host = Text.trim host
  minusZero : Text.IsMinusZero (Text.trim v) → Validator.readInteger v = .ok 0 ∧
    Proxy.ofConfiguration ctx.configuration = .error (.badPort v)

section
variable (hport : ctx.configuration.filled? .proxyPort = some v)
include hport

theorem port_isValid_iff (hliteral : ctx.evaluator.contains v = false) :
    (Validator.port.judgeProperty ctx .proxyPort).isValid = true ↔
      ∃ n, Validator.readInteger v = .ok n ∧ 0 ≤ n ∧ n ≤ 65535 := by
  have hvalue : ctx.evaluator.valueOf .proxyPort v = .ok v := by simp [Evaluator.valueOf, hliteral]
  have hne : v ≠ "" := (Configuration.filled?_eq_some_iff.mp hport).2
  simp only [Validator.judgeProperty, hport, Validator.judge_isValid_iff]
  constructor
  · intro h
    obtain ⟨value, hvalue', -, hcheck⟩ := h.checked
    obtain rfl : v = value := Except.ok.inj (hvalue.symm.trans hvalue')
    exact Validator.check_port_iff.mp (hcheck hne)
  · intro h
    obtain ⟨n, hn, -⟩ := id h
    refine ⟨fun _ => ?_, v, hvalue, fun he => absurd he hne, fun _ => Validator.check_port_iff.mpr h⟩
    -- A blank text is trimmed to one that is no number.
    rw [← Bool.not_eq_true, ← Text.trim_eq_empty_iff]
    intro hblank
    rw [Validator.readInteger_eq_ok_iff_integerOf, hblank] at hn
    cases hn

theorem proxy_eq_some_iff (hhost : ctx.configuration.filled? .proxyHost = some host)
    {proxy : Proxy} :
    Proxy.ofConfiguration ctx.configuration = .ok (some proxy) ↔
      ∃ n, Text.integerOf .unsigned16 (Text.trim v) = .ok n ∧
        proxy = ⟨Text.trim host, n.toNat⟩ := by
  simp [Proxy.ofConfiguration_eq_some_iff, hhost, hport]

theorem proxy_of_minusZero (hhost : ctx.configuration.filled? .proxyHost = some host)
    (hzero : Text.IsMinusZero (Text.trim v)) : Validator.readInteger v = .ok 0 ∧
      Proxy.ofConfiguration ctx.configuration = .error (.badPort v) := by
  obtain ⟨hnumeral, hminus⟩ := Text.isMinusZero_iff.mp hzero
  have hread : Validator.readInteger v = .ok 0 :=
    Validator.readInteger_eq_ok_iff.mpr ⟨hnumeral, by decide⟩
  refine ⟨hread, Proxy.ofConfiguration_eq_error_iff.mpr ?_⟩
  cases hunsigned : Text.integerOf .unsigned16 (Text.trim v) with
  | error cause => exact ⟨host, v, cause, hhost, hport, hunsigned, rfl⟩
  | ok n =>
    obtain ⟨hsigned, -⟩ := Text.integerOf_signed32_of_unsigned16 hunsigned
    exact absurd hminus ((Text.integerOf_unsigned16_iff hsigned).mp hunsigned).2

end

/-- The check of a port takes exactly the texts that a proxy can be made of, and the zeros with a minus
sign besides. Where both take a text, they read the same number. -/
theorem portReadings (ctx : Context) (host v : String)
    (hhost : ctx.configuration.filled? .proxyHost = some host)
    (hport : ctx.configuration.filled? .proxyPort = some v)
    (hliteral : ctx.evaluator.contains v = false) : ctx.PortReadings host v := by
  have hsame : ∀ proxy, Proxy.ofConfiguration ctx.configuration = .ok (some proxy) →
      Validator.readInteger v = .ok (proxy.port : Int) ∧ proxy.port ≤ 65535 ∧
        proxy.host = Text.trim host := by
    intro proxy hproxy
    obtain ⟨n, hunsigned, rfl⟩ := (proxy_eq_some_iff hport hhost).mp hproxy
    obtain ⟨hsigned, hnonneg, hmost⟩ := Text.integerOf_signed32_of_unsigned16 hunsigned
    have hbound : n.toNat ≤ 65535 := by omega
    rw [Int.toNat_of_nonneg hnonneg]
    exact ⟨Validator.readInteger_eq_ok_iff_integerOf.mpr hsigned, hbound, rfl⟩
  refine ⟨?_, hsame, proxy_of_minusZero hport hhost⟩
  rw [port_isValid_iff hport hliteral]
  constructor
  · rintro ⟨n, hread, hnonneg, hmost⟩
    by_cases hminus : (Text.trim v).toList.head? = some '-'
    · have hnumeral := (Validator.readInteger_eq_ok_iff.mp hread).1
      obtain rfl : n = 0 := Int.le_antisymm (hnumeral.nonpos_of_minus hminus) hnonneg
      exact .inr (Text.isMinusZero_iff.mpr ⟨hnumeral, hminus⟩)
    · have hsigned := Validator.readInteger_eq_ok_iff_integerOf.mp hread
      have hunsigned := (Text.integerOf_unsigned16_iff hsigned).mpr ⟨⟨hnonneg, hmost⟩, hminus⟩
      exact .inl ⟨_, (proxy_eq_some_iff hport hhost).mpr ⟨n, hunsigned, rfl⟩⟩
  · rintro (⟨proxy, hproxy⟩ | hzero)
    · obtain ⟨hread, hmost, -⟩ := hsame proxy hproxy
      exact ⟨proxy.port, hread, by omega, by omega⟩
    · exact ⟨0, (proxy_of_minusZero hport hhost hzero).1, by omega, by omega⟩

/-- A proxy with the port `v`, which holds no expression. -/
def withPort (v : String) : Context :=
  ⟨.ofList [(.proxyHost, "h"), (.proxyPort, v)], .literal, ⟨[], []⟩⟩

theorem portReadings_spacedZero : (withPort " -0 ").configuration.filled? .proxyHost = some "h" ∧
    (withPort " -0 ").configuration.filled? .proxyPort = some " -0 " ∧
    (withPort " -0 ").evaluator.contains " -0 " = false ∧
    (Validator.port.judgeProperty (withPort " -0 ") .proxyPort).isValid = true ∧
    Proxy.ofConfiguration (withPort " -0 ").configuration = .error (.badPort " -0 ") := by
  have hhost : (withPort " -0 ").configuration.filled? .proxyHost = some "h" := by decide +kernel
  have hport : (withPort " -0 ").configuration.filled? .proxyPort = some " -0 " := by decide +kernel
  have hzero : Text.IsMinusZero (Text.trim " -0 ") := ⟨['0'], by simp, by simp, by decide +kernel⟩
  have hreadings := portReadings (withPort " -0 ") "h" " -0 " hhost hport rfl
  exact ⟨hhost, hport, rfl, hreadings.accepted.mpr (.inr hzero), (hreadings.minusZero hzero).2⟩

theorem not_forall_port_accepted_iff : ¬ ∀ (ctx : Context) (host v : String),
    ctx.configuration.filled? .proxyHost = some host →
    ctx.configuration.filled? .proxyPort = some v → ctx.evaluator.contains v = false →
    Text.allBlank v = false →
      ((Validator.port.judgeProperty ctx .proxyPort).isValid = true ↔
        ∃ proxy, Proxy.ofConfiguration ctx.configuration = .ok (some proxy)) := by
  intro h
  have hiff := h (withPort "-0") "h" "-0" (by decide +kernel) (by decide +kernel) rfl
    (by decide +kernel)
  obtain ⟨proxy, hproxy⟩ := hiff.mp (by decide +kernel)
  have herror : Proxy.ofConfiguration (withPort "-0").configuration = .error (.badPort "-0") := by
    decide +kernel
  cases hproxy.symm.trans herror

end Context
end CredentialResolution
