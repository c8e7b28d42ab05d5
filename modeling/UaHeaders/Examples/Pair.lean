/-!
# Example pairs

An example is a server, perhaps with a client that talks to it. Both are named by their executables.

## Main definitions

* `UaHeaders.ExamplePair` — a server and perhaps a client, with their arguments.
* `UaHeaders.ExamplePair.standard` — the examples that are tried.
* `UaHeaders.Timings` — how long each of the two is given.
-/

set_option autoImplicit false

namespace UaHeaders

/-- **A server, perhaps with a client that talks to it.** -/
structure ExamplePair where
  server : String
  client : Option String
  serverArgs : List String
  clientArgs : List String
  deriving DecidableEq, Inhabited

namespace ExamplePair

/-- A server by itself. -/
def alone (server : String) : ExamplePair := ⟨server, none, [], []⟩

/-- A server with a client. -/
def between (server client : String) : ExamplePair := ⟨server, some client, [], []⟩

/-- The server that asks for a name and a password, with a client that logs in as `user`. -/
def login (user : String) : ExamplePair :=
  ⟨"server_accesscontrol", some "client_connect", [],
    ["--username", user, "--password", user, "opc.tcp://localhost:4840"]⟩

/-- **The examples that are tried**, in order. -/
def standard : List ExamplePair :=
  [alone "typeconversion", alone "server", alone "server_instantiation",
    alone "server_valuecallback", alone "server_datasource", alone "server_events",
    between "server_minimal" "client_find_servers", between "server_minimal" "client_browse",
    between "server_minimal" "client_subscription", between "server_method" "client_method",
    between "server_method" "client_method_async",
    between "server_custom_datatypes" "client_custom_datatypes", login "user", login "admin"]

end ExamplePair

/-- **How long examples are given**, in nanoseconds. -/
structure Timings where
  /-- From the start of the server to the start of the client. -/
  waitServer : Nat
  /-- For the client, before it is ended. -/
  waitClient : Nat
  /-- For the server after the client, before it is ended. -/
  waitServerExit : Nat
  deriving DecidableEq, Inhabited

namespace Timings

/-- Nanoseconds in a millisecond. -/
def millisecond : Nat := 1000000

/-- Times given in milliseconds. -/
def ofMilliseconds (waitServer waitClient waitServerExit : Nat) : Timings :=
  ⟨waitServer * millisecond, waitClient * millisecond, waitServerExit * millisecond⟩

/-- The times of a run that names none. -/
def standard : Timings := ofMilliseconds 1000 3000 0

end Timings

end UaHeaders
