import AdminGate.Main
import AdminGate.Proofs.HeaderFields
import AdminGate.Proofs.BoundedRetry
import AdminGate.Proofs.CellDiscipline
import AdminGate.Proofs.Convergence
import AdminGate.Proofs.Stabilisation
import AdminGate.Proofs.RejectionExits
import AdminGate.Proofs.ScenarioLoads
import AdminGate.Proofs.TokenOrigins
import AdminGate.Proofs.IndependentReads
import AdminGate.Proofs.RequestWindows
import AdminGate.Proofs.ExitCodes
import AdminGate.Proofs.WrittenRecords
import AdminGate.Proofs.TokenChoice
import AdminGate.Proofs.MergedFields
import AdminGate.Proofs.Envelopes
import AdminGate.Proofs.ErrorTexts
import AdminGate.Proofs.Privileges
import AdminGate.Proofs.NormalIdentities
import AdminGate.Proofs.LandingPages
import AdminGate.Proofs.GuardedContent
import AdminGate.Proofs.Configuring
import AdminGate.Proofs.OverriddenAddresses
import AdminGate.Proofs.HeldTokens
import AdminGate.Proofs.LogLines
import AdminGate.Proofs.OwnFields
import AdminGate.Proofs.LevelNames
import AdminGate.Proofs.CookieTexts
import AdminGate.Proofs.GuardedFunctions
import AdminGate.Proofs.ScopedRuns
