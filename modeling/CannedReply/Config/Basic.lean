import CannedReply.Text.Quoted

/-!
What a server is told: where to listen, and how many connections to take.
-/

namespace CannedReply

/-- How many connections are accepted: one, after which the server ends, or any number. -/
inductive AcceptMode where
  | once
  | forever
  deriving DecidableEq, Repr

namespace AcceptMode

def word : AcceptMode → String
  | once => "once"
  | forever => "forever"

def account : AcceptMode → String
  | once => "Once"
  | forever => "Forever"

def ofWord? (w : String) : Option AcceptMode :=
  if w = "once" then some once else if w = "forever" then some forever else none

theorem ofWord?_word (m : AcceptMode) : ofWord? m.word = some m := by
  cases m <;> rfl

theorem ofWord?_eq_some_iff {w : String} {m : AcceptMode} : ofWord? w = some m ↔ w = m.word := by
  constructor
  · intro h
    simp only [ofWord?] at h
    split at h
    · cases h; assumption
    · split at h
      · cases h; assumption
      · simp at h
  · rintro rfl
    exact ofWord?_word m

end AcceptMode

/-- Where to listen, before the host is looked up. Port zero leaves the choice to the system. -/
structure Endpoint where
  host : String
  port : UInt16
  deriving DecidableEq, Repr

/-- The host that is listened on unless another is set: every IPv4 interface. -/
def defaultHost : String := "0.0.0.0"

def defaultPort : UInt16 := 5000

def Endpoint.default : Endpoint := ⟨defaultHost, defaultPort⟩

/-- Host and port as they were set, with a colon between them. -/
def Endpoint.authority (e : Endpoint) : String :=
  e.host ++ ":" ++ Numeral.decimal e.port.toNat

/-- All that a server is told. -/
structure Config where
  listener : Endpoint
  acceptMode : AcceptMode
  deriving DecidableEq, Repr

def Config.default : Config := ⟨Endpoint.default, .once⟩

/-- The configuration for a log, setting by setting. -/
def Config.account (c : Config) : String :=
  "ServerConfig \x7b listener: ListenerConfig \x7b host: " ++ Text.quoted c.listener.host
    ++ ", port: " ++ Numeral.decimal c.listener.port.toNat ++ " \x7d, accept_mode: "
    ++ c.acceptMode.account ++ " \x7d"

end CannedReply
