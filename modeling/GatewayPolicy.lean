import GatewayPolicy.Detection
import GatewayPolicy.Policy.YamlInterchange
import GatewayPolicy.Proofs.Compiler
import GatewayPolicy.Proofs.Detection
import GatewayPolicy.Proofs.Export.Bundle
import GatewayPolicy.Proofs.Export.Declaration
import GatewayPolicy.Proofs.Policy.Branches
import GatewayPolicy.Proofs.Policy.Drift
import GatewayPolicy.Proofs.Policy.ExpressionRuns
import GatewayPolicy.Proofs.Policy.KeptContent
import GatewayPolicy.Proofs.Policy.NamedReferences
import GatewayPolicy.Proofs.Policy.RawItems
import GatewayPolicy.Proofs.Policy.RequestRefusals
import GatewayPolicy.Proofs.Policy.RequestRoundTrip
import GatewayPolicy.Proofs.Policy.RequiredParameters
import GatewayPolicy.Proofs.Policy.SafeReading
import GatewayPolicy.Proofs.Policy.SectionReading
import GatewayPolicy.Proofs.Store
import GatewayPolicy.Proofs.Validation.AssignedVariables
import GatewayPolicy.Proofs.Validation.CoercedValues
import GatewayPolicy.Proofs.Validation.Places
import GatewayPolicy.Proofs.Wizard
import GatewayPolicy.Proofs.Wizard.Interchange
import GatewayPolicy.Proofs.Wizard.Parts
import GatewayPolicy.Proofs.Wizard.Patches
import GatewayPolicy.Proofs.Wizard.Sessions
import GatewayPolicy.Proofs.Xml.ExpressionEnds
import GatewayPolicy.Proofs.Xml.QuotedValues
import GatewayPolicy.Proofs.Xml.Trailing
import GatewayPolicy.Settings.Interchange
