import StartPage.Proofs.Address
import StartPage.Proofs.Report
import StartPage.Proofs.Run
import StartPage.Proofs.Url.Ideograph

/-!
    Texts that stand for addresses, resolved twice. The address of a text is written so that it
    resolves to itself, unless its host is a name with a label whose code is too long to be read. All
    that a session leaves for are such addresses, so that it never leaves the web.

        http://[0:0::1]:80/a/../b   ──▶   http://[::1]/b   ──▶   http://[::1]/b      -/

namespace StartPage

namespace Address

variable {raw : String} {u : Url}

end Address

/-! ### Leaving a session -/

namespace Page

variable (p : Page)

end Page

namespace Session

end Session

/-! ### Resolving again -/

namespace Address

end Address
end StartPage
