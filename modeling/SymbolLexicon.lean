import SymbolLexicon.Renaming
import SymbolLexicon.Proofs.Namespaces
import SymbolLexicon.Proofs.Descriptor.Refusals
import SymbolLexicon.Proofs.Descriptor.Consultation
import SymbolLexicon.Proofs.Lexicon.Acceptance
import SymbolLexicon.Proofs.Lexicon.Listing
import SymbolLexicon.Proofs.Lexicon.MemberIdentity
import SymbolLexicon.Proofs.Lexicon.Locality
import SymbolLexicon.Proofs.Lexicon.Feasibility
import SymbolLexicon.Proofs.Lexicon.Rearrangement
import SymbolLexicon.Proofs.Lexicon.Totality
import SymbolLexicon.Proofs.Renaming.Paths
import SymbolLexicon.Proofs.Renaming.BuildOrder
import SymbolLexicon.Proofs.Renaming.References
