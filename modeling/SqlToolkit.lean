import SqlToolkit.Migration.Batch
import SqlToolkit.Migration.Folder
import SqlToolkit.Statement.Query
import SqlToolkit.Statement.Write
import SqlToolkit.Proofs.Criteria.Built
import SqlToolkit.Proofs.Statement.Binding
import SqlToolkit.Proofs.Predicate.Meaning
import SqlToolkit.Proofs.Statement.Alike
import SqlToolkit.Proofs.Migration.Statement
import SqlToolkit.Proofs.Migration.Store
import SqlToolkit.Proofs.Migration.Call
import SqlToolkit.Proofs.Migration.Memory
import SqlToolkit.Proofs.Migration.Reached
import SqlToolkit.Proofs.Migration.Protocol
import SqlToolkit.Proofs.Migration.Task
import SqlToolkit.Proofs.Migration.Composition
import SqlToolkit.Proofs.Migration.Inverse
import SqlToolkit.Proofs.Migration.Refresh
import SqlToolkit.Proofs.Migration.Scripted
import SqlToolkit.Proofs.Migration.Recall
import SqlToolkit.Proofs.Session.Routine
import SqlToolkit.Proofs.Migration.Literal
import SqlToolkit.Proofs.Schema.Declaration
import SqlToolkit.Proofs.Session.Address
import SqlToolkit.Proofs.Condition.Key
import SqlToolkit.Proofs.Statement.Restricted
import SqlToolkit.Proofs.Criteria.Transcript
import SqlToolkit.Proofs.RawSql.Replacement
import SqlToolkit.Proofs.Statement.Insertion
import SqlToolkit.Proofs.Statement.Repetition
import SqlToolkit.Proofs.Statement.Replaced
import SqlToolkit.Proofs.Criteria.Window
import SqlToolkit.Proofs.Statement.Qualifier
import SqlToolkit.Proofs.Statement.Inline
import SqlToolkit.Proofs.Schema.Nullability
import SqlToolkit.Proofs.SelectList.Grouping
import SqlToolkit.Proofs.Schema.EnumType
import SqlToolkit.Proofs.Schema.Stretch
import SqlToolkit.Proofs.Join.Key
import SqlToolkit.Proofs.Value.Reading
import SqlToolkit.Proofs.Schema.Template
import SqlToolkit.Proofs.Migration.Creation
import SqlToolkit.Proofs.Fragment.Construction
