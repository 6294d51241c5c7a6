import StagedLoad.Data.Json.Printer
import StagedLoad.Export.Written
import StagedLoad.Main
import StagedLoad.Proofs.Mapping.LoadOrder
import StagedLoad.Proofs.Query.FreshNames
import StagedLoad.Proofs.Query.Layout
import StagedLoad.Proofs.Staging.DerivedNames
import StagedLoad.Proofs.Query.Scope
import StagedLoad.Proofs.Mapping.Filing
import StagedLoad.Proofs.Query.Columns
import StagedLoad.Proofs.Mapping.Loading
import StagedLoad.Proofs.LastItem
import StagedLoad.Proofs.Staging.LastTables
import StagedLoad.Proofs.Staging.Supply
import StagedLoad.Proofs.Query.LookupTables
import StagedLoad.Proofs.Export.Spelling
import StagedLoad.Proofs.Staging.Creation
import StagedLoad.Proofs.Mapping.Creation
import StagedLoad.Proofs.Export.Refusal
import StagedLoad.Proofs.Mapping.Refusal
import StagedLoad.Proofs.Mapping.Accounting
import StagedLoad.Proofs.Mapping.Persistence
import StagedLoad.Proofs.Query.LookupRows
import StagedLoad.Proofs.Query.Deferral
import StagedLoad.Proofs.Mapping.Growth
import StagedLoad.Proofs.Text.Reading
import StagedLoad.Proofs.Query.ExprReading
import StagedLoad.Proofs.Query.PlanReading
import StagedLoad.Proofs.Query.RecordTypeRows
import StagedLoad.Proofs.Query.Needs
import StagedLoad.Proofs.Staging.ScriptReading
import StagedLoad.Proofs.Query.Places
import StagedLoad.Proofs.Query.RowsSelected
import StagedLoad.Proofs.Export.Partition
import StagedLoad.Proofs.Export.Membership
import StagedLoad.Proofs.Mapping.Attachment
import StagedLoad.Proofs.Export.Discovery
import StagedLoad.Proofs.Query.NameRuns
import StagedLoad.Proofs.Query.NameUses
import StagedLoad.Proofs.Query.Extending
import StagedLoad.Proofs.Data.JsonKept
import StagedLoad.Proofs.Mapping.Keying
import StagedLoad.Proofs.Org.Description
import StagedLoad.Proofs.Staging.Mirroring
import StagedLoad.Proofs.Query.GroupedReading
import StagedLoad.Proofs.Staging.ColumnOrder
import StagedLoad.Proofs.Text.Scanning
