import FluentSql.Record.Query
import FluentSql.Session.Operation
import FluentSql.Proofs.Builder.Compaction
import FluentSql.Proofs.Builder.FaultKinds
import FluentSql.Proofs.Builder.Interleaving
import FluentSql.Proofs.Builder.RowNumbers
import FluentSql.Proofs.Builder.Shapes
import FluentSql.Proofs.Builder.Validity
import FluentSql.Proofs.Query.Grammar
import FluentSql.Proofs.Query.JoinCondition
import FluentSql.Proofs.Statement.Binding
import FluentSql.Proofs.Statement.Counting
import FluentSql.Proofs.Statement.Independence
import FluentSql.Proofs.Statement.Injectivity
import FluentSql.Proofs.Statement.Joins
import FluentSql.Proofs.Statement.TailGrammar
import FluentSql.Proofs.Statement.Upsert
import FluentSql.Proofs.Session.Backup
import FluentSql.Proofs.Session.FileUri
import FluentSql.Proofs.Session.Rebuilding
import FluentSql.Proofs.Session.RowCounts
import FluentSql.Proofs.Session.Running
import FluentSql.Proofs.Session.Transaction
import FluentSql.Proofs.Session.Unwinding
