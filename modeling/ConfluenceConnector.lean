import ConfluenceConnector.Python
import ConfluenceConnector.Client
import ConfluenceConnector.Paginated
import ConfluenceConnector.AccessControl
import ConfluenceConnector.Fetch
import ConfluenceConnector.Harvest
import ConfluenceConnector.Producers
import ConfluenceConnector.Search
import ConfluenceConnector.Identities
import ConfluenceConnector.Completion
import ConfluenceConnector.Inheritance
