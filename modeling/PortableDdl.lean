import PortableDdl.Column.Change
import PortableDdl.Json.Writing
import PortableDdl.Main
import PortableDdl.Proofs.AccountRequoting
import PortableDdl.Proofs.AlterationParts
import PortableDdl.Proofs.ArgumentForms
import PortableDdl.Proofs.BuiltDefinition
import PortableDdl.Proofs.ChangeOrder
import PortableDdl.Proofs.CharacterSetForms
import PortableDdl.Proofs.CharacterSetPolicy
import PortableDdl.Proofs.ColumnCommand
import PortableDdl.Proofs.ColumnVerdict
import PortableDdl.Proofs.CommandLineOptions
import PortableDdl.Proofs.CommandOutcome
import PortableDdl.Proofs.ConfigurationSources
import PortableDdl.Proofs.DefaultSchema
import PortableDdl.Proofs.DocumentLayout
import PortableDdl.Proofs.DocumentRoundTrip
import PortableDdl.Proofs.ForeignKeyText
import PortableDdl.Proofs.IndexLocation
import PortableDdl.Proofs.LimitText
import PortableDdl.Proofs.PrivilegeArguments
import PortableDdl.Proofs.PrivilegeGrammar
import PortableDdl.Proofs.PrivilegeText
import PortableDdl.Proofs.PrivilegeVerdict
import PortableDdl.Proofs.ResolvedColumn
import PortableDdl.Proofs.Shape
import PortableDdl.Proofs.StoredCase
