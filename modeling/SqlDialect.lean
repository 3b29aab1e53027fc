import SqlDialect.Calendar.Timestamp
import SqlDialect.ColumnType.WireName
import SqlDialect.Dialect
import SqlDialect.Page
import SqlDialect.Pool
import SqlDialect.Render.Writing
import SqlDialect.Session.Request
import SqlDialect.Statement.Equality
import SqlDialect.Text.Bytes
import SqlDialect.Value.Cell
import SqlDialect.Proofs.Render.Acceptance
import SqlDialect.Proofs.Render.Binding
import SqlDialect.Proofs.Render.Drafting
import SqlDialect.Proofs.Render.Placement
import SqlDialect.Proofs.Render.Reading
import SqlDialect.Proofs.Render.Strings
import SqlDialect.Proofs.Render.Tables
import SqlDialect.Proofs.Session.Running
import SqlDialect.Proofs.Render.Recompilation
import SqlDialect.Proofs.Failure.Chain
import SqlDialect.Proofs.Session.Turns
import SqlDialect.Proofs.Session.Serving
import SqlDialect.Proofs.Session.Readings
import SqlDialect.Proofs.Render.Agreement
import SqlDialect.Proofs.Render.Inlining
import SqlDialect.Proofs.Pool.Checkouts
import SqlDialect.Proofs.Pool.Conservation
import SqlDialect.Proofs.Session.Versions
import SqlDialect.Proofs.Pool.Versions
import SqlDialect.Proofs.Render.Comments
import SqlDialect.Proofs.Render.Counts
import SqlDialect.Proofs.Render.Labels
import SqlDialect.Proofs.Render.Limits
import SqlDialect.Proofs.Render.Faults
import SqlDialect.Proofs.Render.Qualification
import SqlDialect.Proofs.Value.Numbers
import SqlDialect.Proofs.ColumnType.Respelling
import SqlDialect.Proofs.ColumnType.Grammar
import SqlDialect.Proofs.Value.Bits
import SqlDialect.Proofs.Calendar.Days
import SqlDialect.Proofs.Calendar.Instants
import SqlDialect.Proofs.Calendar.Literals
import SqlDialect.Proofs.Render.Moments
import SqlDialect.Proofs.Session.Logging
import SqlDialect.Proofs.Session.Attribution
import SqlDialect.Proofs.Identifier.Keywords
import SqlDialect.Proofs.Statement.Names
import SqlDialect.Proofs.ServerVersion
import SqlDialect.Proofs.Dialect.Registry
import SqlDialect.Proofs.Page
import SqlDialect.Proofs.Text.Copies
import SqlDialect.Proofs.Text.Excerpts
