import PageScript.Main
import PageScript.Proofs.Budget
import PageScript.Proofs.Condition.Flags
import PageScript.Proofs.Condition.Grammar
import PageScript.Proofs.Machine.Boundary
import PageScript.Proofs.Machine.Branch
import PageScript.Proofs.Machine.Deadline
import PageScript.Proofs.Machine.InStep
import PageScript.Proofs.Machine.Negation
import PageScript.Proofs.Machine.PageLoad
import PageScript.Proofs.Machine.Relay
import PageScript.Proofs.Machine.WellFormed
import PageScript.Proofs.Statement.Block
import PageScript.Proofs.Statement.Locality
import PageScript.Proofs.Statement.Termination
import PageScript.Proofs.Suite
import PageScript.Proofs.Token.Lines
import PageScript.Proofs.Token.Numeral
import PageScript.Proofs.Token.Partition
import PageScript.Proofs.WebDriver.Leak
import PageScript.Proofs.WebDriver.Selector
