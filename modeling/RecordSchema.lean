import RecordSchema.Proofs.Log
import RecordSchema.Main
import RecordSchema.Session
import RecordSchema.Proofs.CommandLine.Run
import RecordSchema.Proofs.Declaration.Concatenation
import RecordSchema.Proofs.Declaration.Descent
import RecordSchema.Proofs.Declaration.Expressible
import RecordSchema.Proofs.Declaration.FieldLanguage
import RecordSchema.Proofs.Declaration.Limit
import RecordSchema.Proofs.Declaration.Positions
import RecordSchema.Proofs.Declaration.Provenance
import RecordSchema.Proofs.Json.Presentation
import RecordSchema.Proofs.Json.RoundTrip
import RecordSchema.Proofs.Load
import RecordSchema.Proofs.Session
