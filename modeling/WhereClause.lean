import WhereClause.Main
import WhereClause.Summary
import WhereClause.Sql.Storage
import WhereClause.Proofs.Numbering
import WhereClause.Proofs.Draft
import WhereClause.Proofs.Spelling
import WhereClause.Proofs.Scanning
import WhereClause.Proofs.Evaluation
import WhereClause.Proofs.Meaning
import WhereClause.Proofs.Skeleton
import WhereClause.Proofs.Identifiers
import WhereClause.Proofs.Noninterference
import WhereClause.Proofs.Inheritance
import WhereClause.Proofs.Joining
import WhereClause.Proofs.RoundTrip
import WhereClause.Proofs.Leaves
import WhereClause.Proofs.Binding
import WhereClause.Proofs.Failure
import WhereClause.Proofs.Grouping
import WhereClause.Proofs.Capture
import WhereClause.Proofs.Bundling
import WhereClause.Proofs.Consistency
import WhereClause.Proofs.Combining
import WhereClause.Proofs.Association
import WhereClause.Proofs.Inference
import WhereClause.Proofs.Statements
import WhereClause.Proofs.Places
import WhereClause.Proofs.Stopping
import WhereClause.Proofs.Chronology
import WhereClause.Proofs.JsonText
import WhereClause.Proofs.ScalarText
import WhereClause.Proofs.Interchange
import WhereClause.Proofs.Membership
import WhereClause.Proofs.SingleLiteral
