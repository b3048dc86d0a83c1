import HttpCheck.Settings.Path
import HttpCheck.Executor.Config
/-!
# Loading executor settings

Settings come from overrides (a key and a value each) or from the environment
(variables named `HTTPX_<key>`, in any case). Overrides are set in the order they were
first given; giving a key again replaces its value. A variable's key is its name
lowered, without the prefix; its text is read as a boolean, an integer or a double
when it is one, else kept as text.

The executor settings are then read from the members `user_agent`, `timeout_ms`,
`max_redirects` and `body_limit`; other members are ignored, missing ones keep their
defaults, and a member of the wrong kind is reported with its key (and, for the
environment, where it came from).
-/
namespace HttpCheck.Settings

open HttpCheck.Executor

/-- Applies overrides to an empty tree; a malformed key is reported at once. -/
def applyOverrides (overrides : List (String × Value)) : Except String Value := do
  let parsed ← overrides.mapM fun (k, v) =>
    match parseKeyPath k with
    | .ok p => Except.ok (p, v)
    | .error e => .error (e.render k)
  let merged := parsed.foldl (fun (acc : List (KeyPath × Value)) (p, v) =>
    if acc.any (·.1 == p) then acc.map fun (q, w) => if q == p then (q, v) else (q, w)
    else acc ++ [(p, v)]) []
  return merged.foldl (fun root (p, v) => p.set v root) (.table [])

/-- The value of a variable's text: a boolean, an integer, a double, or the text. -/
def environmentValue (s : String) : Value :=
  let l := lowerText s
  if l == "true" then .boolean true
  else if l == "false" then .boolean false
  else match Binary64.parseI64? s with
    | some i => .int i
    | none => match Binary64.parseDouble? s with
      | some x => .float x
      | none => .string s

/-- The prefix of the variables read, lowered. -/
def environmentPrefix : String := "httpx_"

/-- Where variables come from, as errors name it. -/
def environmentOrigin : String := "the environment"

/-- The tree of the variables with the prefix; a later variable of the same key wins. -/
def fromEnvironment (vars : List (String × String)) : Value :=
  vars.foldl (fun root (name, text) =>
    let key := lowerText name
    if key.startsWith environmentPrefix then
      let key := (key.drop environmentPrefix.length).toString
      let v := environmentValue text
      match parseKeyPath key with
      | .ok p => p.set v root
      | .error _ => (KeyPath.name key).set v root
    else root) (.table [])

/-- A conversion of the member `key`, its failure reported with the key. -/
def member {α : Type} (origin : Option String) (key : String) (c : Conversion α) :
    Except TypeError α :=
  c.mapError fun (u, expected) => ⟨u, expected, some key, origin⟩

/-- Reads executor settings from a tree. -/
def readExecutorConfig (origin : Option String) (root : Value) : Except TypeError ExecutorConfig :=
  root.members.foldlM (fun (c : ExecutorConfig) (k, v) =>
    if k == "user_agent" then do
      return { c with userAgent := ← member origin k v.intoString }
    else if k == "timeout_ms" then
      match v with
      | .nil => pure { c with timeoutMs := none }
      | _ => do return { c with timeoutMs := some (← member origin k v.intoNat) }
    else if k == "max_redirects" then do
      return { c with maxRedirects := ← member origin k v.intoNat }
    else if k == "body_limit" then do
      return { c with bodyLimit := ← member origin k v.intoNat }
    else pure c) ExecutorConfig.default

/-- Why executor settings could not be loaded. -/
def loadErrorMessage (e : TypeError) : String :=
  "failed to load executor configuration: " ++ e.message

/-- Executor settings from overrides. -/
def configFromOverrides (root : Value) : Except String ExecutorConfig :=
  (readExecutorConfig none root).mapError loadErrorMessage

/-- Executor settings from the environment. -/
def configFromEnvironment (vars : List (String × String)) : Except String ExecutorConfig :=
  (readExecutorConfig (some environmentOrigin) (fromEnvironment vars)).mapError loadErrorMessage

end HttpCheck.Settings
