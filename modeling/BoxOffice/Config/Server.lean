import BoxOffice.Config.Environment
import BoxOffice.Json.Reader

/-! # Settings of the server -/

namespace BoxOffice.Config

/-- Where the server listens and how much it takes on. -/
structure Server where
  host : Text
  port : Nat
  logLevel : Text
  maxConnections : Nat
  /-- How many seconds sessions may take to close when the server shuts down. -/
  shutdownSeconds : Nat
  deriving Repr, DecidableEq

namespace Server

def default : Server := ⟨"0.0.0.0", 8080, "info", 1000, 30⟩

def maxPort : Nat := 65535

/-- The greatest number of connections or seconds. -/
def maxWord : Nat := 18446744073709551615

/-- The settings that an environment gives. What is not set, is not Unicode or is no number in range
    keeps its default. -/
def ofEnvironment (env : Environment) : Server :=
  { host := (env.text? "HOST").getD default.host
    port := (env.number? "PORT" maxPort).getD default.port
    logLevel := (env.text? "RUST_LOG").getD default.logLevel
    maxConnections := (env.number? "MAX_CONNECTIONS" maxWord).getD default.maxConnections
    shutdownSeconds := (env.number? "SHUTDOWN_TIMEOUT" maxWord).getD default.shutdownSeconds }

def bindAddress (s : Server) : Text := s.host ++ [':'] ++ Text.ofNat s.port

/-- The settings as a document: one member that holds them all. -/
def print (s : Server) : Text :=
  Json.printObject
    [("server",
      Json.printObject
        [("host", Json.quote s.host), ("port", Text.ofNat s.port),
          ("log_level", Json.quote s.logLevel),
          ("max_connections", Text.ofNat s.maxConnections),
          ("shutdown_timeout", Text.ofNat s.shutdownSeconds)])]

def parse? (text : Text) : Option Server := do
  let document ← Json.parse text
  match ← document.toRecord? ["server"] with
  | [server] =>
      match ← server.toRecord?
          ["host", "port", "log_level", "max_connections", "shutdown_timeout"] with
      | [host, port, logLevel, maxConnections, shutdownSeconds] =>
          return {
            host := ← host.toText?
            port := ← port.toNat? maxPort
            logLevel := ← logLevel.toText?
            maxConnections := ← maxConnections.toNat? maxWord
            shutdownSeconds := ← shutdownSeconds.toNat? maxWord }
      | _ => none
  | _ => none

end Server

end BoxOffice.Config
