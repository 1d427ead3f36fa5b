import CredentialResolution.Provider.Basic
import CredentialResolution.Provider.Library

/-! Loading credentials: what a provider does with the world when it is asked. Files are read anew
each time. The clients and sources of the library are made when they are first used, in the world as
it is by then, and kept; and an assumed role remembers the credentials that it signs with. -/

namespace CredentialResolution
set_option autoImplicit false

/-- What came of a request for credentials, and the requests that were sent for it. -/
structure Loaded where
  outcome : Except LoadError Credentials
  requests : List Sts.Request

/-- What a provider keeps for the times to come. -/
structure Memory where
  /-- The world in which its client or its source was made. -/
  madeIn : World
  /-- The credentials that the client signed with. -/
  signer : Option Credentials

/-- The world in which a client or a source was made, which is this one if it is made only now. -/
def World.making (w : World) (memory : Option Memory) : World := (memory.map Memory.madeIn).getD w

namespace Source

/-- The credentials of a source in a world; `made` is the one that it was made in. -/
def load (s : Source) (lib : Library) (made w : World) : Except LoadError Credentials :=
  match s with
  | environment => lib.chain made w
  | keys c => .ok c
  | file path =>
    match w.files.readText path with
    | .error e => .error (.unreadableFile path e)
    | .ok text => (CredentialsFile.read text).mapError .missingKey
  | profile name => lib.profile name made w

end Source

/-- What the last answer of an exchange is worth. -/
def outcomeOf (provider : String) : Option Sts.Answer → Except LoadError Credentials
  | none => .error .unanswered
  | some (.issued c) => .ok (c.credentials provider)
  | some .empty => .error .nothingIssued
  | some (.refused r) => .error (.refused r)

/-- Sends a request as often as the policy asks for it. -/
def Sts.Policy.send (p : Policy) (provider : String) (request : Request) (answers : List Answer) :
    Loaded :=
  let (count, last) := p.exchange answers
  ⟨outcomeOf provider last, List.replicate count request⟩

/-- The endpoint of a client that is made in a world, in the region of the settings or else in the one
that is found there. -/
def ServiceSettings.endpoint? (s : ServiceSettings) (lib : Library) (made : World) :
    Option Sts.Endpoint :=
  lib.endpoint? made (s.region <|> lib.region? made)

namespace AssumedRole

def providerName : String := "AssumeRoleProvider"

def request (r : AssumedRole) (endpoint : Sts.Endpoint) (signer : Credentials) : Sts.Request where
  action := .assumeRole r.roleArn r.sessionName r.externalId r.duration
  signature := some ⟨signer.accessKeyId, signer.sessionToken, endpoint.signingRegion⟩
  proxied := r.settings.proxy.isSome

/-- The credentials that requests are signed with: those remembered as long as they are fresh, or else
those of the source. -/
def signer? (r : AssumedRole) (lib : Library) (memory : Option Memory) (w : World) :
    Option Credentials :=
  (memory.bind Memory.signer).filter (lib.isFresh w) <|>
    r.source.bind fun s => (s.load lib (w.making memory) w).toOption

def load (r : AssumedRole) (lib : Library) (memory : Option Memory) (w : World) :
    Loaded × Option Memory :=
  let made := w.making memory
  let signer := r.signer? lib memory w
  let loaded : Loaded :=
    match signer, r.settings.endpoint? lib made with
    | none, _ => ⟨.error .unsigned, []⟩
    | some _, none => ⟨.error .noEndpoint, []⟩
    | some c, some endpoint =>
      (lib.policy made).send providerName (r.request endpoint c) w.answers
  (loaded, some ⟨made, signer⟩)

end AssumedRole

namespace TokenExchange

def providerName : String := "WebIdentityToken"

/-- The text of the token, without the blanks around it. -/
def token (t : TokenExchange) (w : World) : Except LoadError String :=
  match w.files.read t.tokenFile with
  | .error e => .error (.unreadableToken e)
  | .ok bytes =>
    match String.fromUTF8? bytes with
    | none => .error .tokenNotText
    | some text => .ok (Text.trim text)

def request (t : TokenExchange) (token : String) : Sts.Request where
  action := .assumeRoleWithWebIdentity t.roleArn t.sessionName token
  signature := none
  proxied := t.settings.proxy.isSome

/-- Sends the token with a client that was made in a world, whatever the library's policy is. -/
def send (t : TokenExchange) (lib : Library) (made : World) (token : String)
    (answers : List Sts.Answer) : Loaded :=
  match t.settings.endpoint? lib made with
  | none => ⟨.error .noEndpoint, []⟩
  | some _ => Sts.Policy.ofTokens.send providerName (t.request token) answers

/-- The client is made only when there is a token to be sent. -/
def load (t : TokenExchange) (lib : Library) (memory : Option Memory) (w : World) :
    Loaded × Option Memory :=
  match t.token w with
  | .error e => (⟨.error e, []⟩, memory)
  | .ok token => (t.send lib (w.making memory) token w.answers, some ⟨w.making memory, none⟩)

end TokenExchange

/-- What a provider does when credentials are asked of it, and what it keeps. -/
def Provider.load (p : Provider) (lib : Library) (memory : Option Memory) (w : World) :
    Loaded × Option Memory :=
  match p with
  | source s => (⟨s.load lib (w.making memory) w, []⟩, some ⟨w.making memory, none⟩)
  | assumedRole r => r.load lib memory w
  | tokenExchange t => t.load lib memory w

def Handle.load (h : Handle) (lib : Library) (memory : Option Memory) (w : World) :
    Loaded × Option Memory :=
  match h.provider with
  | none => (⟨.error .anonymous, []⟩, memory)
  | some p => p.load lib memory w

/-- Asks for credentials once in each of several worlds. -/
def Handle.loadAll (h : Handle) (lib : Library) (memory : Option Memory) :
    List World → List Loaded
  | [] => []
  | w :: ws =>
    let (loaded, kept) := h.load lib memory w
    loaded :: h.loadAll lib kept ws

end CredentialResolution
