import IncomeTax.Main
import IncomeTax.Program.Workspace
import IncomeTax.Proofs.Assessment.Bounds
import IncomeTax.Proofs.Assessment.Monotone
import IncomeTax.Proofs.Assessment.Range
import IncomeTax.Proofs.Assessment.Rearranged
import IncomeTax.Proofs.Declaration.CreditMaximum
import IncomeTax.Proofs.Declaration.FiscalPartner
import IncomeTax.Proofs.Declaration.Json
import IncomeTax.Proofs.Declaration.SharedCeiling
import IncomeTax.Proofs.Declaration.Withholding
import IncomeTax.Proofs.Filing.AmendmentChain
import IncomeTax.Proofs.Filing.History
import IncomeTax.Proofs.Filing.TableKeys
import IncomeTax.Proofs.Program.Commands
import IncomeTax.Proofs.RateTable.Isolation
import IncomeTax.Proofs.RateTable.Policy
import IncomeTax.Proofs.RateTable.WellFormed
import IncomeTax.Proofs.Decimal.Order
import IncomeTax.Proofs.Calendar.DayNumber
import IncomeTax.Proofs.Declaration.FieldPath
import IncomeTax.Proofs.Declaration.Periods
import IncomeTax.Proofs.Declaration.Accounting
import IncomeTax.Proofs.Identifier.Iban
import IncomeTax.Proofs.Declaration.Collected
import IncomeTax.Proofs.Binary64.Round
import IncomeTax.Proofs.Binary64.Shortest
import IncomeTax.Proofs.Binary64.Text
import IncomeTax.Proofs.Text.Notation
import IncomeTax.Proofs.Decimal.Notation
import IncomeTax.Proofs.Csv.Cell
import IncomeTax.Proofs.Csv.Table
import IncomeTax.Proofs.RateTable.Seams
import IncomeTax.Proofs.RateTable.BoundColumns
import IncomeTax.Proofs.Declaration.BirthYears
