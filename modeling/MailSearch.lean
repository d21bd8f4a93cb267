import MailSearch.Compiler.Description
import MailSearch.Main
import MailSearch.Proofs.Acceptance
import MailSearch.Proofs.Condensing
import MailSearch.Proofs.Display
import MailSearch.Proofs.Literals
import MailSearch.Proofs.UnknownValues
import MailSearch.Proofs.UnresolvedDates
import MailSearch.Proofs.Compilation
import MailSearch.Proofs.Layout
import MailSearch.Proofs.Limits
import MailSearch.Proofs.Leniency
import MailSearch.Proofs.LenientDisplay
import MailSearch.Proofs.DayNumbers
import MailSearch.Proofs.PastDates
import MailSearch.Proofs.NormalForm
import MailSearch.Proofs.Cutting
import MailSearch.Proofs.Completions
import MailSearch.Proofs.Composition
import MailSearch.Proofs.FaultPositions
import MailSearch.Proofs.UniqueLowering
import MailSearch.Proofs.PassingTime
import MailSearch.Proofs.PhraseTexts
import MailSearch.Proofs.RecentDays
import MailSearch.Proofs.LargestParts
import MailSearch.Proofs.UniqueSql
import MailSearch.Proofs.Sessions
import MailSearch.Proofs.OpenQuotes
import MailSearch.Proofs.Obstacles
import MailSearch.Proofs.Surroundings
import MailSearch.Proofs.Chains
import MailSearch.Proofs.Numerals
import MailSearch.Proofs.TimeAgo
import MailSearch.Proofs.Weekdays
import MailSearch.Proofs.DateSpellings
