import NetConsole.Active.Basic
import NetConsole.Active.Json
import NetConsole.Active.Kinds
import NetConsole.Bus.Encoding
import NetConsole.Bus.Error
import NetConsole.Bus.KeyTree
import NetConsole.Bus.Notation
import NetConsole.Bus.Signature
import NetConsole.Bus.Text
import NetConsole.Bus.Value
import NetConsole.Cli.Command
import NetConsole.Cli.LogFilter
import NetConsole.Cli.Parse
import NetConsole.Cli.Report
import NetConsole.Cli.Run
import NetConsole.Cli.Spec
import NetConsole.Cli.Usage
import NetConsole.Client.Active
import NetConsole.Client.Call
import NetConsole.Client.Devices
import NetConsole.Client.Scan
import NetConsole.Client.Service
import NetConsole.Client.Settings
import NetConsole.Config
import NetConsole.Daemon.Basic
import NetConsole.Daemon.Scenario
import NetConsole.Daemon.Service
import NetConsole.Description
import NetConsole.Device.Basic
import NetConsole.Device.Json
import NetConsole.Device.Kinds
import NetConsole.Error
import NetConsole.Error.Json
import NetConsole.Flags
import NetConsole.Form.Translate
import NetConsole.Form.Values
import NetConsole.Json.Basic
import NetConsole.Json.Parse
import NetConsole.Json.Print
import NetConsole.Log
import NetConsole.Main
import NetConsole.Net.Address
import NetConsole.Number.Binary64
import NetConsole.Number.Integer
import NetConsole.Number.Scale
import NetConsole.Number.Shortest
import NetConsole.Pattern.CharSet
import NetConsole.Pattern.Check
import NetConsole.Pattern.Read
import NetConsole.Pattern.Syntax
import NetConsole.Profile.Basic
import NetConsole.Profile.Choice
import NetConsole.Profile.Decode
import NetConsole.Profile.Flags
import NetConsole.Profile.Json
import NetConsole.Profile.Kinds
import NetConsole.Proofs.Choices
import NetConsole.Proofs.Decode
import NetConsole.Proofs.ErrorKinds
import NetConsole.Proofs.FieldRules
import NetConsole.Proofs.Integers
import NetConsole.Proofs.Merge
import NetConsole.Proofs.ReadBack
import NetConsole.Proofs.Reapply
import NetConsole.Proofs.Schema
import NetConsole.Proofs.Secrets
import NetConsole.Proofs.Selectors
import NetConsole.Proofs.SettingsKeys
import NetConsole.Proofs.StoreReads
import NetConsole.Proofs.StoreRuns
import NetConsole.Proofs.SubmittedValues
import NetConsole.Proofs.Translation
import NetConsole.Proofs.UpdateSet
import NetConsole.Settings.Field
import NetConsole.Settings.Json
import NetConsole.Settings.Key
import NetConsole.Settings.Merge
import NetConsole.Settings.Table
import NetConsole.Settings.Update
import NetConsole.Store.Backend
import NetConsole.Store.Memory
import NetConsole.Store.Steps
import NetConsole.Text.Alphabetic
import NetConsole.Text.Alphanumeric
import NetConsole.Text.Blank
import NetConsole.Text.GraphemeExtend
import NetConsole.Text.Lowercase
import NetConsole.Text.Printable
import NetConsole.Text.Quoted
import NetConsole.Text.Ranges
import NetConsole.Text.Utf8
import NetConsole.Uuid
