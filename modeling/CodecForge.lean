import CodecForge.Main
import CodecForge.Template.Store
import CodecForge.Coding.JsonText
import CodecForge.Coding.Tagged
import CodecForge.Report
import CodecForge.Coding.Scaling
import CodecForge.Coding.Procedure
import CodecForge.Proofs.Plan.OwnGroup
import CodecForge.Proofs.Json.WellKeyed
import CodecForge.Proofs.Settings.Precedence
import CodecForge.Proofs.Coding.TypedRoundTrip
import CodecForge.Proofs.Coding.KeyedRoundTrip
import CodecForge.Proofs.Coding.Acceptance
import CodecForge.Proofs.Registry.Resolution
import CodecForge.Proofs.Target.PythonModule
import CodecForge.Proofs.Plan.Alignment
import CodecForge.Proofs.Coding.Tags
import CodecForge.Proofs.Coding.Navigation
import CodecForge.Proofs.Coding.Outcomes
import CodecForge.Proofs.Coding.Faults
import CodecForge.Proofs.Coding.Attachment
import CodecForge.AtWork
import CodecForge.Proofs.Coding.Inheritance
import CodecForge.Proofs.Coding.SingleValue
import CodecForge.Proofs.Target.Composition
import CodecForge.Proofs.CommandLine.SameCode
import CodecForge.Proofs.Naming.Recall
import CodecForge.Proofs.Loading.Refusals
import CodecForge.Proofs.Settings.Usable
import CodecForge.Proofs.Registry.AnyData
import CodecForge.Proofs.Naming.Safety
import CodecForge.Proofs.Extraction.Identifiers
import CodecForge.Proofs.Extraction.InertMarkers
import CodecForge.Proofs.Options.Overrides
import CodecForge.Proofs.Options.Container
import CodecForge.Proofs.Target.RawValues
import CodecForge.Proofs.Target.Attributes
import CodecForge.Proofs.Target.Properties
import CodecForge.Proofs.Target.Widths
import CodecForge.Proofs.Layout.Tidiness
import CodecForge.Proofs.Naming.SnakeCase
import CodecForge.Proofs.Target.FunctionNames
import CodecForge.Proofs.Coding.Shape
import CodecForge.Proofs.Coding.Trees
import CodecForge.Proofs.Coding.Rereading
import CodecForge.Proofs.Coding.TypedKeys
import CodecForge.Proofs.Coding.KeptEntries
import CodecForge.Proofs.Extraction.NestedEnums
import CodecForge.Proofs.Extraction.Shorthand
import CodecForge.Proofs.Json.RoundTrip
import CodecForge.Proofs.Settings.Saved
import CodecForge.Proofs.Settings.Shared
import CodecForge.Proofs.Registry.ListedAliases
import CodecForge.Proofs.Template.Additions
import CodecForge.Proofs.Coding.Booleans
import CodecForge.Proofs.Plan.Walks
import CodecForge.Proofs.Target.Wrapping
import CodecForge.Proofs.Target.Keys
