import HttpCheck.Binary64.Basic
import HttpCheck.Binary64.Layout
import HttpCheck.Binary64.Parse
import HttpCheck.Binary64.Shortest
import HttpCheck.Check.Assertions
import HttpCheck.Check.Builders
import HttpCheck.Check.Error
import HttpCheck.Check.Status
import HttpCheck.Check.Step
import HttpCheck.Executor.Config
import HttpCheck.Executor.InProcess
import HttpCheck.Executor.Live
import HttpCheck.Form.Encode
import HttpCheck.Http.Header
import HttpCheck.Http.Message
import HttpCheck.Http.Mime
import HttpCheck.Http.Token
import HttpCheck.Http.Uri
import HttpCheck.Http.Url
import HttpCheck.Http.Idna
import HttpCheck.Text.Punycode
import HttpCheck.Unicode.Idna
import HttpCheck.Unicode.Bidi
import HttpCheck.Unicode.Joining
import HttpCheck.Unicode.Composition
import HttpCheck.Unicode.Normalization
import HttpCheck.Json.Encodable
import HttpCheck.Json.Parse
import HttpCheck.Json.Path
import HttpCheck.Json.Print
import HttpCheck.Json.Value
import HttpCheck.Pipeline.Apply
import HttpCheck.Pipeline.Assertable
import HttpCheck.Pipeline.Error
import HttpCheck.Pipeline.Reporter
import HttpCheck.Regex.Automaton
import HttpCheck.Regex.Classes
import HttpCheck.Regex.Expr
import HttpCheck.Regex.Footprint
import HttpCheck.Regex.Matcher
import HttpCheck.Regex.Parse
import HttpCheck.Regex.Syntax
import HttpCheck.Regex.Translate
import HttpCheck.Settings.Load
import HttpCheck.Settings.Path
import HttpCheck.Settings.Value
import HttpCheck.Text.Base64
import HttpCheck.Text.Blank
import HttpCheck.Text.Hex
import HttpCheck.Text.Quoted
import HttpCheck.Text.Utf8
import HttpCheck.Unicode.Age
import HttpCheck.Unicode.Alphanumeric
import HttpCheck.Unicode.Break
import HttpCheck.Unicode.CaseFold
import HttpCheck.Unicode.Category
import HttpCheck.Unicode.Printable
import HttpCheck.Unicode.Property
import HttpCheck.Unicode.Ranges
import HttpCheck.Unicode.Script
import HttpCheck.Proofs.Except
import HttpCheck.Proofs.Pipeline
import HttpCheck.Proofs.Utf8
import HttpCheck.Proofs.Target
import HttpCheck.Proofs.Encoding
import HttpCheck.Proofs.Builders
import HttpCheck.Proofs.BuilderFold
import HttpCheck.Proofs.Panics
import HttpCheck.Proofs.PathGrammar
import HttpCheck.Proofs.HeaderReadBack
import HttpCheck.Proofs.JsonChecks
import HttpCheck.Proofs.HandlerOutcome
import HttpCheck.Proofs.QueryJoin
import HttpCheck.Proofs.HeaderChecks
import HttpCheck.Proofs.LiveOutcome
import HttpCheck.Proofs.BodyChecks
import HttpCheck.Proofs.StatusChecks
