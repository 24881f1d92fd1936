import TitleBar.CommandLine.Grammar
import TitleBar.DebugMode
import TitleBar.Tag

/-! # Requests

What the arguments of each command ask for.
-/

namespace TitleBar.CommandLine

structure SessionOptions where
  /-- The rule file of the user, as it was written. -/
  config : Option String
  mode : DebugMode
  /-- How long source control is waited for, in milliseconds. -/
  patience : Nat
deriving DecidableEq, Repr

namespace SessionOptions

/-- A session of which nothing was said. -/
def defaults : SessionOptions := ⟨none, .design, 5000⟩

def options : List (String × (String → SessionOptions → Option SessionOptions)) := [
  ("config", fun value session => some { session with config := some value }),
  ("mode", fun value session => do
    let mode ← (DebugMode.ofString? value).toOption
    return { session with mode }),
  ("settle-ms", fun value session => do
    let patience ← Tag.count? value
    return { session with patience })]

/-- The same options in a request that contains a session. -/
def optionsWithin {Request : Type} (session : Request → SessionOptions)
    (put : Request → SessionOptions → Request) :
    List (String × (String → Request → Option Request)) :=
  options.map fun (name, change) =>
    (name, fun value request => (change value (session request)).map (put request))

end SessionOptions

structure RenderRequest where
  solution : String
  session : SessionOptions
  /-- Whether the title bar is printed as JSON. -/
  json : Bool
deriving DecidableEq, Repr

def RenderRequest.grammar : Grammar RenderRequest :=
  { defaults := ⟨"", SessionOptions.defaults, false⟩
    options := SessionOptions.optionsWithin (·.session) fun request session =>
      { request with session }
    flags := [("json", fun request => { request with json := true })]
    positionals := [fun solution request => { request with solution }] }

structure ExpandRequest where
  template : String
  solution : Option String
  session : SessionOptions
deriving DecidableEq, Repr

def ExpandRequest.grammar : Grammar ExpandRequest :=
  { defaults := ⟨"", none, SessionOptions.defaults⟩
    options :=
      ("solution", fun value request => some { request with solution := some value }) ::
        SessionOptions.optionsWithin (·.session) fun request session => { request with session }
    flags := []
    positionals := [fun template request => { request with template }] }

structure TagsRequest where
  solution : Option String
  session : SessionOptions
deriving DecidableEq, Repr

def TagsRequest.grammar : Grammar TagsRequest :=
  { defaults := ⟨none, SessionOptions.defaults⟩
    options :=
      ("solution", fun value request => some { request with solution := some value }) ::
        SessionOptions.optionsWithin (·.session) fun request session => { request with session }
    flags := []
    positionals := [] }

/-- The arguments of a check of the host: there are none. -/
def checkGrammar : Grammar Unit := ⟨(), [], [], []⟩

end TitleBar.CommandLine
